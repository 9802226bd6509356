import Accounts.Proofs.Store.Transaction
import Mathlib.Logic.Function.Basic

/-! A store in memory that any number of clients share behind a lock.

A client calls the store and waits; once nobody holds the lock it enters. An operation outside any
transaction is performed as it enters. A transaction copies the table, works on the copy one
operation at a time, and either ends or is dropped. -/

namespace Accounts.Store

inductive Call (α : Type)
  | operation (operation : Operation)
  | transaction (work : Work α)

abbrev Answered : Type := (operation : Operation) × operation.Result

inductive Fate (α : Type)
  | unfinished
  | finished (ending : Ending α)
  | dropped

def Fate.succeeded {α : Type} : Fate α → Bool
  | .finished ending => ending.succeeded
  | _ => false

/-- What a client has been shown while it held the lock. Before it took the lock, `place` pieces of
the supply had been taken. -/
inductive Session (Client α : Type)
  | operation (client : Client) (place : Nat) (answered : Answered)
  | transaction (client : Client) (place : Nat) (work : Work α) (answers : List Answered)
      (fate : Fate α)

namespace Session

variable {Client α : Type}

def answer (answered : Answered) : Session Client α → Session Client α
  | .transaction client place work answers fate =>
    .transaction client place work (answers ++ [answered]) fate
  | session => session

def close (fate : Fate α) : Session Client α → Session Client α
  | .transaction client place work answers _ => .transaction client place work answers fate
  | session => session

end Session

/-- Where a client stands. One that is inside has a session of its own, the copy that it works on,
and the rest of its work. -/
inductive Phase (α : Type)
  | idle
  | waiting (call : Call α)
  | inside (session : Nat) (copy : Memory) (work : Work α)

def Phase.isOutside {α : Type} : Phase α → Prop
  | .inside _ _ _ => False
  | _ => True

structure Shared (Client α : Type) where
  memory : Memory
  locked : Bool
  phase : Client → Phase α
  sessions : List (Session Client α)

inductive Action (Client α : Type)
  | call (client : Client) (call : Call α)
  | enter (client : Client)
  | proceed (client : Client)
  | drop (client : Client)

namespace Shared

variable {Client α : Type}

def start (memory : Memory) : Shared Client α := ⟨memory, false, fun _ => .idle, []⟩

variable [DecidableEq Client]

def move (shared : Shared Client α) (client : Client) (phase : Phase α) : Shared Client α :=
  { shared with phase := Function.update shared.phase client phase }

theorem phase_move {shared : Shared Client α} {client other : Client} {phase there : Phase α}
    (stands : (shared.move client phase).phase other = there) :
    (other = client ∧ phase = there) ∨ (other ≠ client ∧ shared.phase other = there) := by
  by_cases same : other = client
  · subst same
    exact .inl ⟨rfl, by simpa [move] using stands⟩
  · exact .inr ⟨same, by simpa [move, Function.update_of_ne same] using stands⟩

/-- A client takes the lock for a session; an operation gives it back at once. -/
def enter (shared : Shared Client α) (client : Client) : Shared Client α :=
  let place := shared.memory.supply.taken
  match shared.locked, shared.phase client with
  | false, .waiting (.operation operation) =>
    let (result, memory) := Memory.perform operation shared.memory
    { shared.move client .idle with
      memory
      sessions := shared.sessions ++ [.operation client place ⟨operation, result⟩] }
  | false, .waiting (.transaction work) =>
    let session := shared.sessions.length
    { shared.move client (.inside session (Memory.stage shared.memory).copy work) with
      locked := true
      sessions := shared.sessions ++ [.transaction client place work [] .unfinished] }
  | _, _ => shared

def release (shared : Shared Client α) (client : Client) (session : Nat) (memory : Memory)
    (fate : Fate α) : Shared Client α :=
  { shared.move client .idle with
    memory
    locked := false
    sessions := shared.sessions.modify session (Session.close fate) }

def proceed (shared : Shared Client α) (client : Client) : Shared Client α :=
  match shared.phase client with
  | .inside session copy (.ask operation next) =>
    let (result, staging) := Memory.Staging.perform operation ⟨copy, shared.memory.table⟩
    { shared.move client (.inside session staging.copy (next result)) with
      sessions := shared.sessions.modify session (Session.answer ⟨operation, result⟩) }
  | .inside session copy (.done ending) =>
    let (ending, staging) := Memory.Staging.scope.finish ending ⟨copy, shared.memory.table⟩
    shared.release client session staging.close (.finished ending)
  | _ => shared

def drop (shared : Shared Client α) (client : Client) : Shared Client α :=
  match shared.phase client with
  | .idle => shared
  | .waiting _ => shared.move client .idle
  | .inside session copy _ =>
    shared.release client session (Memory.Staging.close ⟨copy, shared.memory.table⟩) .dropped

/-- One step. What the lock or the phase of the client does not allow does not happen. -/
def step (shared : Shared Client α) : Action Client α → Shared Client α
  | .call client call =>
    match shared.phase client with
    | .idle => shared.move client (.waiting call)
    | _ => shared
  | .enter client => shared.enter client
  | .proceed client => shared.proceed client
  | .drop client => shared.drop client

def run (memory : Memory) (actions : List (Action Client α)) : Shared Client α :=
  actions.foldl step (start memory)

end Shared

end Accounts.Store
