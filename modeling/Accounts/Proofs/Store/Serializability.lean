import Accounts.Proofs.Store.Shared

/-! A shared store behaves as if those who take its lock came one after another.

Whatever the clients do and however their steps are interleaved, the table is the one that the
operations and the committed transactions leave behind when each of them is performed as a whole,
in the order in which the lock was taken, and what a client is shown is what it would be shown
then. -/

namespace Accounts

def Supply.startingAt (supply : Supply) (place : Nat) : Supply := { supply with taken := place }

namespace Store

variable {Client α : Type}

namespace Session

def committed : Session Client α → Bool
  | .operation _ _ _ => true
  | .transaction _ _ _ _ fate => fate.succeeded

def memory (supply : Supply) (table : Table) : Session Client α → Memory
  | .operation _ place _ => ⟨table, supply.startingAt place⟩
  | .transaction _ place _ _ _ => ⟨table, supply.startingAt place⟩

def perform (supply : Supply) (table : Table) (session : Session Client α) : Table :=
  match session with
  | .operation _ _ answered =>
    (Memory.perform answered.1 (session.memory supply table)).2.table
  | .transaction _ _ work _ _ => (Memory.transact work (session.memory supply table)).2.table

/-- Whether a session has been shown what it is shown when it has the table for itself. A
transaction sees the table and what it has written itself; one that has ended has seen all of its
operations, and its result is that of a transaction without others. -/
def Agrees (supply : Supply) (table : Table) (session : Session Client α) : Prop :=
  match session with
  | .operation _ _ answered =>
    answered.2 = (Memory.perform answered.1 (session.memory supply table)).1
  | .transaction _ _ work answers (.finished ending) =>
    answers = work.transcript Memory.perform (session.memory supply table) ∧
      ending = (Memory.transact work (session.memory supply table)).1
  | .transaction _ _ work answers _ =>
    answers <+: work.transcript Memory.perform (session.memory supply table)

end Session

def serial (supply : Supply) (table : Table) (sessions : List (Session Client α)) : Table :=
  (sessions.filter Session.committed).foldl (Session.perform supply) table

theorem serial_concat (supply : Supply) (table : Table) (sessions : List (Session Client α))
    (session : Session Client α) :
    serial supply table (sessions ++ [session]) =
      if session.committed then session.perform supply (serial supply table sessions)
      else serial supply table sessions := by
  by_cases kept : session.committed = true
  · simp [serial, kept]
  · simp [serial, kept]

def AllAgree (supply : Supply) (table : Table) (sessions : List (Session Client α)) : Prop :=
  ∀ before session after, sessions = before ++ session :: after →
    session.Agrees supply (serial supply table before)

/-- A committed transaction leaves the table behind that its operations come to one after another. -/
theorem serial_transaction {supply : Supply} {table : Table} {before : List (Session Client α)}
    {client : Client} {place : Nat} {work : Work α} {answers : List Answered} {fate : Fate α}
    (agrees : (Session.transaction client place work answers fate).Agrees supply
      (serial supply table before))
    (committed : fate.succeeded = true) :
    serial supply table (before ++ [.transaction client place work answers fate]) =
      (work.run Memory.perform ⟨serial supply table before, supply.startingAt place⟩).2.table := by
  cases fate with
  | finished ending =>
      have result : ending = (work.run Memory.perform
          ⟨serial supply table before, supply.startingAt place⟩).1 := by
        rw [agrees.2, Memory.transact_eq]
        rfl
      have well : ending.succeeded = true := committed
      have kept : (Session.transaction client place work answers (.finished ending)).committed =
          true := committed
      rw [serial_concat, if_pos kept, Session.perform, Memory.transact_eq, Session.memory]
      exact if_pos (result ▸ well)
  | unfinished => contradiction
  | dropped => contradiction

theorem allAgree_concat (supply : Supply) (table : Table) (sessions : List (Session Client α))
    (session : Session Client α) :
    AllAgree supply table (sessions ++ [session]) ↔
      AllAgree supply table sessions ∧ session.Agrees supply (serial supply table sessions) := by
  constructor
  · intro agree
    refine ⟨?_, agree sessions session [] rfl⟩
    intro before earlier after split
    exact agree before earlier (after ++ [session]) (by simp [split])
  · rintro ⟨agree, last⟩ before earlier after split
    rcases List.eq_nil_or_concat after with rfl | ⟨middle, final, rfl⟩
    · obtain ⟨rfl, same⟩ := List.append_inj' split rfl
      obtain rfl := List.singleton_inj.mp same
      exact last
    · rw [List.concat_eq_append, ← List.cons_append, ← List.append_assoc] at split
      obtain ⟨same, -⟩ := List.append_inj' split rfl
      exact agree before earlier middle same

theorem modify_concat {β : Type} (f : β → β) (before : List β) (last : β) :
    (before ++ [last]).modify before.length f = before ++ [f last] := by
  simp [List.modify_eq_take_cons_drop]

/-- A client inside a transaction has the last session and the only unfinished one. What is left of
its work comes, from its copy, to what all of its work comes to from the table. -/
structure Inside (supply : Supply) (shared : Shared Client α) (client : Client) (session : Nat)
    (copy : Memory) (work : Work α) : Prop where
  locked : shared.locked = true
  record : ∃ before place original answers,
    shared.sessions = before ++ [.transaction client place original answers .unfinished] ∧
    session = before.length ∧
    original.transcript Memory.perform ⟨shared.memory.table, supply.startingAt place⟩ =
      answers ++ work.transcript Memory.perform copy ∧
    original.run Memory.perform ⟨shared.memory.table, supply.startingAt place⟩ =
      work.run Memory.perform copy
  piece : copy.supply.piece = supply.piece

structure Serialized (memory : Memory) (shared : Shared Client α) : Prop where
  piece : shared.memory.supply.piece = memory.supply.piece
  table : shared.memory.table = serial memory.supply memory.table shared.sessions
  agree : AllAgree memory.supply memory.table shared.sessions
  inside : ∀ client session copy work, shared.phase client = .inside session copy work →
    Inside memory.supply shared client session copy work

theorem serialized_start (memory : Memory) :
    Serialized memory (Shared.start memory : Shared Client α) where
  piece := rfl
  table := rfl
  agree := by
    intro before session after split
    simp [Shared.start] at split
  inside := by
    intro client session copy work inside
    simp [Shared.start] at inside

section Steps

variable {memory : Memory} {shared : Shared Client α} {client other : Client}
  {session session' : Nat} {copy copy' : Memory} {work work' : Work α}

theorem Inside.unique (here : Inside memory.supply shared client session copy work)
    (there : Inside memory.supply shared other session' copy' work') : other = client := by
  obtain ⟨before, place, original, answers, record, -⟩ := here.record
  obtain ⟨before', place', original', answers', record', -⟩ := there.record
  rw [record] at record'
  have last := List.singleton_inj.mp (List.append_inj' record' rfl).2
  injection last with same
  exact same.symm

theorem Serialized.not_inside (serialized : Serialized memory shared)
    (free : shared.locked = false) :
    shared.phase other ≠ .inside session copy work := by
  intro inside
  have locked := (serialized.inside other session copy work inside).locked
  rw [free] at locked
  contradiction

/-- The memory of a shared store is where its next session starts from. -/
theorem Serialized.memory_eq (serialized : Serialized memory shared) :
    shared.memory = ⟨serial memory.supply memory.table shared.sessions,
      memory.supply.startingAt shared.memory.supply.taken⟩ := by
  rw [← serialized.table, Supply.startingAt, ← serialized.piece]

variable [DecidableEq Client]

theorem Serialized.move (serialized : Serialized memory shared) {phase : Phase α}
    (outside : phase.isOutside) : Serialized memory (shared.move client phase) where
  piece := serialized.piece
  table := serialized.table
  agree := serialized.agree
  inside := by
    intro other session copy work inside
    rcases Shared.phase_move inside with ⟨-, rfl⟩ | ⟨-, inside⟩
    · exact absurd outside (by simp [Phase.isOutside])
    · have here := serialized.inside other session copy work inside
      exact ⟨here.locked, here.record, here.piece⟩

theorem Serialized.operation (serialized : Serialized memory shared) (operation : Operation)
    (free : shared.locked = false) :
    Serialized memory
      { shared.move client .idle with
        memory := (Memory.perform operation shared.memory).2
        sessions := shared.sessions ++ [.operation client shared.memory.supply.taken
          ⟨operation, (Memory.perform operation shared.memory).1⟩] } where
  piece := serialized.piece
  table := by
    rw [serial_concat]
    simp only [Session.committed, if_true, Session.perform, Session.memory]
    rw [← serialized.memory_eq]
  agree := by
    refine (allAgree_concat ..).mpr ⟨serialized.agree, ?_⟩
    simp only [Session.Agrees, Session.memory]
    rw [← serialized.memory_eq]
  inside := by
    intro other session copy work inside
    rcases Shared.phase_move inside with ⟨-, idle⟩ | ⟨-, inside⟩
    · contradiction
    · exact absurd inside (serialized.not_inside free)

theorem Serialized.opened (serialized : Serialized memory shared) (work : Work α)
    (free : shared.locked = false) :
    Serialized memory
      { shared.move client (.inside shared.sessions.length shared.memory work) with
        locked := true
        sessions := shared.sessions ++
          [.transaction client shared.memory.supply.taken work [] .unfinished] } where
  piece := serialized.piece
  table := by
    rw [serial_concat]
    exact serialized.table
  agree := (allAgree_concat ..).mpr ⟨serialized.agree, List.nil_prefix⟩
  inside := by
    intro other session copy rest inside
    rcases Shared.phase_move inside with ⟨rfl, here⟩ | ⟨-, inside⟩
    · injection here with index copied left
      subst index copied left
      refine ⟨rfl, ⟨shared.sessions, _, work, [], rfl, rfl, ?_⟩, serialized.piece⟩
      change Program.transcript Memory.perform work ⟨shared.memory.table, _⟩ = _ ∧
        Program.run Memory.perform work ⟨shared.memory.table, _⟩ = _
      rw [serialized.table, ← serialized.memory_eq]
      exact ⟨rfl, rfl⟩
    · exact absurd inside (serialized.not_inside free)

theorem Serialized.answered (serialized : Serialized memory shared) (operation : Operation)
    (next : operation.Result → Work α)
    (inside : shared.phase client = .inside session copy (.ask operation next)) :
    Serialized memory
      { shared.move client (.inside session (Memory.perform operation copy).2
          (next (Memory.perform operation copy).1)) with
        sessions := shared.sessions.modify session
          (Session.answer ⟨operation, (Memory.perform operation copy).1⟩) } := by
  have here := serialized.inside client session copy _ inside
  obtain ⟨before, place, original, answers, record, rfl, shown, ends⟩ := here.record
  have table := serialized.table
  have agree := serialized.agree
  rw [record] at table agree ⊢
  rw [serial_concat] at table
  replace table : shared.memory.table = serial memory.supply memory.table before := table
  rw [modify_concat]
  refine ⟨serialized.piece, ?_, ?_, ?_⟩
  · rw [serial_concat]
    exact table
  · refine (allAgree_concat ..).mpr ⟨((allAgree_concat ..).mp agree).1, ?_⟩
    simp only [Session.answer, Session.Agrees, Session.memory]
    rw [← table, shown]
    -- the answer is the next one that the work gets
    exact ⟨_, List.append_assoc ..⟩
  · intro other session' copy' work' stands
    rcases Shared.phase_move stands with ⟨rfl, moved⟩ | ⟨different, stands⟩
    · injection moved with index copied left
      subst index copied left
      refine ⟨here.locked, ⟨before, place, original, _, rfl, rfl, ?_, ends⟩, here.piece⟩
      rw [List.append_assoc]
      exact shown
    · exact absurd (here.unique (serialized.inside other session' copy' work' stands)) different

/-- A transaction gives the lock back and leaves the table as it is or, if it has gone well, with
what its work has done. -/
theorem Serialized.released (serialized : Serialized memory shared)
    (inside : shared.phase client = .inside session copy work) (fate : Fate α)
    (result : ∀ ending, fate = .finished ending → work = .done ending) :
    Serialized memory (shared.release client session
      ⟨if fate.succeeded then copy.table else shared.memory.table, copy.supply⟩ fate) := by
  have here := serialized.inside client session copy _ inside
  obtain ⟨before, place, original, answers, record, rfl, shown, ends⟩ := here.record
  have table := serialized.table
  have agree := serialized.agree
  rw [record] at table agree
  rw [serial_concat] at table
  replace table : shared.memory.table = serial memory.supply memory.table before := table
  have sessions : shared.sessions.modify before.length (Session.close fate) =
      before ++ [.transaction client place original answers fate] := by
    rw [record, modify_concat]
    rfl
  refine ⟨here.piece, ?_, ?_, ?_⟩
  · change (if fate.succeeded then copy.table else shared.memory.table) =
      serial memory.supply memory.table (shared.sessions.modify before.length _)
    rw [sessions, serial_concat]
    cases fate with
    | finished ending =>
        obtain rfl := result ending rfl
        change _ = if ending.succeeded then
          (Memory.transact original ⟨serial memory.supply memory.table before, _⟩).2.table else _
        rw [← table, Memory.transact_eq, ends, Program.run_done]
        cases well : ending.succeeded <;> simp [Fate.succeeded, well]
    | unfinished => exact table
    | dropped => exact table
  · change AllAgree memory.supply memory.table (shared.sessions.modify before.length _)
    rw [sessions]
    refine (allAgree_concat ..).mpr ⟨((allAgree_concat ..).mp agree).1, ?_⟩
    cases fate with
    | finished ending =>
        obtain rfl := result ending rfl
        simp only [Session.Agrees, Session.memory]
        rw [← table, shown, Memory.transact_eq, ends, Program.run_done]
        exact ⟨(List.append_nil answers).symm, rfl⟩
    | unfinished =>
        simp only [Session.Agrees, Session.memory]
        rw [← table, shown]
        exact List.prefix_append ..
    | dropped =>
        simp only [Session.Agrees, Session.memory]
        rw [← table, shown]
        exact List.prefix_append ..
  · intro other session' copy' work' stands
    rcases Shared.phase_move stands with ⟨-, idle⟩ | ⟨different, stands⟩
    · contradiction
    · exact absurd (here.unique (serialized.inside other session' copy' work' stands)) different

theorem Serialized.step (serialized : Serialized memory shared) (action : Action Client α) :
    Serialized memory (shared.step action) := by
  cases action with
  | call client call =>
      simp only [Shared.step]
      split
      · exact serialized.move trivial
      · exact serialized
  | enter client =>
      simp only [Shared.step, Shared.enter]
      split
      next operation free waiting => exact serialized.operation operation free
      next work free waiting => exact serialized.opened work free
      next => exact serialized
  | proceed client =>
      simp only [Shared.step, Shared.proceed]
      split
      next session copy operation next inside => exact serialized.answered operation next inside
      next session copy ending inside =>
        rw [Memory.Staging.finish_eq]
        refine serialized.released inside (.finished ending) ?_
        rintro _ ⟨rfl⟩
        rfl
      next => exact serialized
  | drop client =>
      simp only [Shared.step, Shared.drop]
      split
      next => exact serialized
      next call waiting => exact serialized.move trivial
      next session copy work inside =>
        exact serialized.released inside .dropped (fun _ unequal => nomatch unequal)

theorem serialized_run (memory : Memory) (actions : List (Action Client α)) :
    Serialized memory (Shared.run memory actions) := by
  unfold Shared.run
  generalize starts : Shared.start memory = shared
  have serialized : Serialized memory shared := starts ▸ serialized_start memory
  clear starts
  induction actions generalizing shared with
  | nil => exact serialized
  | cons action actions ih => exact ih _ (serialized.step action)

end Steps

/-- Whatever clients do at a shared store and however their steps are interleaved, at every moment
the table is that of the committed sessions performed one after another in the order in which the
lock was taken, and every session has been shown what it is shown when it is performed by itself on
the table of the committed sessions before it. A transaction that has been committed has left behind
what its operations come to on that table. Whoever is inside a transaction holds the lock alone: no
session has begun since, and the table is still the one that was copied. -/
theorem shared_store_serializable [DecidableEq Client] (memory : Memory)
    (actions : List (Action Client α)) :
    (Shared.run memory actions).memory.table =
      serial memory.supply memory.table (Shared.run memory actions).sessions ∧
    (∀ before session after, (Shared.run memory actions).sessions = before ++ session :: after →
      session.Agrees memory.supply (serial memory.supply memory.table before)) ∧
    (∀ before client place work answers fate after, (Shared.run memory actions).sessions =
        before ++ .transaction client place work answers fate :: after → fate.succeeded = true →
      serial memory.supply memory.table (before ++ [.transaction client place work answers fate]) =
        (work.run Memory.perform ⟨serial memory.supply memory.table before,
          memory.supply.startingAt place⟩).2.table) ∧
    (∀ client session copy work,
      (Shared.run memory actions).phase client = .inside session copy work →
      ∃ before place original answers,
        (Shared.run memory actions).sessions =
          before ++ [.transaction client place original answers .unfinished] ∧
        (Shared.run memory actions).memory.table = serial memory.supply memory.table before) := by
  have serialized := serialized_run memory actions
  refine ⟨serialized.table, serialized.agree, ?_, ?_⟩
  · intro before client place work answers fate after split committed
    exact serial_transaction (serialized.agree before _ after split) committed
  · intro client session copy work inside
    have here := serialized.inside client session copy work inside
    obtain ⟨before, place, original, answers, record, -⟩ := here.record
    refine ⟨before, place, original, answers, record, ?_⟩
    rw [serialized.table, record, serial_concat]
    rfl

end Store

end Accounts
