import Accounts.Proofs.Store.Frame
import Accounts.Proofs.Store.Unhashed

/-! Tables that hold the same rows in different orders. No answer tells the orders apart: a conflict
is told by what all rows have, and a search has one row to find at most. -/

namespace Accounts.Store

namespace Table

def SameRows (table other : Table) : Prop := table.entries.Perm other.entries

variable {table other third : Table}

theorem SameRows.refl (table : Table) : table.SameRows table := List.Perm.refl _

theorem SameRows.symm (same : table.SameRows other) : other.SameRows table := List.Perm.symm same

theorem SameRows.trans (same : table.SameRows other) (again : other.SameRows third) :
    table.SameRows third :=
  List.Perm.trans same again

theorem SameRows.alike (same : table.SameRows other) : table.Alike other := List.Perm.map _ same

theorem SameRows.users (same : table.SameRows other) : table.users.Perm other.users :=
  List.Perm.map _ same

theorem SameRows.nodup_keys (same : table.SameRows other)
    (keys : (table.entries.map Prod.fst).Nodup) : (other.entries.map Prod.fst).Nodup :=
  (List.Perm.map Prod.fst same).nodup_iff.mp keys

theorem SameRows.wellFormed (same : table.SameRows other) (wellFormed : table.WellFormed) :
    other.WellFormed where
  keys := same.nodup_keys wellFormed.keys
  own := fun entry member => wellFormed.own entry (List.Perm.mem_iff same |>.mpr member)
  usernames := (same.users.map _).nodup_iff.mp wellFormed.usernames
  emails := (same.users.map _).nodup_iff.mp wellFormed.emails

theorem SameRows.get? (same : table.SameRows other) (keys : (table.entries.map Prod.fst).Nodup)
    (key : Uuid) : table.get? key = other.get? key := by
  cases found : table.get? key with
  | none =>
      apply Eq.symm
      apply get?_eq_none.mpr
      intro entry member
      exact get?_eq_none.mp found entry (List.Perm.mem_iff same |>.mpr member)
  | some row =>
      have member := List.Perm.mem_iff same |>.mp (get?_mem found)
      exact (get?_of_mem (same.nodup_keys keys) member).symm

theorem SameRows.live? (same : table.SameRows other) (keys : (table.entries.map Prod.fst).Nodup)
    (key : Uuid) : table.live? key = other.live? key := by
  rw [Table.live?, Table.live?, same.get? keys]

/-! Searches. -/

theorem SameRows.find (same : table.SameRows other) {predicate : User → Bool}
    (unique : table.OnlyOne predicate) : table.find predicate = other.find predicate := by
  rcases table.find_cases predicate with ⟨row, member, live, holds, found⟩ | ⟨hidden, absent⟩
  · rw [found]
    apply Eq.symm
    apply find_eq_ok (same.users.mem_iff.mp member) live holds
    intro second second_member again
    exact unique second (same.users.mem_iff.mpr second_member) row member again holds
  · rw [absent]
    apply Eq.symm
    apply find_of_hidden
    intro row member holds
    exact hidden row (same.users.mem_iff.mpr member) holds

theorem SameRows.search (same : table.SameRows other) (wellFormed : table.WellFormed)
    (fresh : Fresh) (operation : Operation) (search : operation.IsSearch) :
    (table.perform fresh operation).1 = (other.perform fresh operation).1 := by
  cases operation with
  | findByUsername username => exact same.find (wellFormed.onlyOne_username username)
  | findByEmail email => exact same.find (wellFormed.onlyOne_email (Email.normalize email))
  | findById id => exact same.find (wellFormed.onlyOne_id id)
  | create new => exact search.elim
  | update user => exact search.elim
  | delete id => exact search.elim

/-! Changes. -/

def SameOutcome {α : Type} (outcome outcome' : Except Failure α × Table) : Prop :=
  outcome.1 = outcome'.1 ∧ outcome.2.SameRows outcome'.2

theorem SameRows.create (same : table.SameRows other) (fresh : Fresh) (new : NewUser) :
    SameOutcome (table.create fresh new) (other.create fresh new) := by
  have unique := same.alike.checkUnique new.username.text new.email.text none
  rw [Table.create, Table.create, ← unique]
  cases table.checkUnique new.username.text new.email.text none with
  | error failure => exact ⟨rfl, same⟩
  | ok free => exact ⟨rfl, put_perm same _ _⟩

theorem SameRows.update (same : table.SameRows other) (keys : (table.entries.map Prod.fst).Nodup)
    (fresh : Fresh) (user : User) :
    SameOutcome (table.update fresh user) (other.update fresh user) := by
  have unique := same.alike.checkUnique user.username.text user.email.text (some user.id)
  rw [Table.update, Table.update, ← same.live? keys]
  cases table.live? user.id with
  | none => exact ⟨rfl, same⟩
  | some row =>
      simp only [← unique]
      cases table.checkUnique user.username.text user.email.text (some user.id) with
      | error failure => exact ⟨rfl, same⟩
      | ok free => exact ⟨rfl, put_perm same _ _⟩

theorem SameRows.delete (same : table.SameRows other) (keys : (table.entries.map Prod.fst).Nodup)
    (fresh : Fresh) (id : Uuid) :
    SameOutcome (table.delete fresh id) (other.delete fresh id) := by
  rw [Table.delete, Table.delete, ← same.live? keys]
  cases table.live? id with
  | none => exact ⟨rfl, same⟩
  | some row => exact ⟨rfl, put_perm same _ _⟩

theorem SameRows.perform (same : table.SameRows other) (wellFormed : table.WellFormed)
    (fresh : Fresh) (operation : Operation) :
    SameOutcome (table.perform fresh operation) (other.perform fresh operation) := by
  cases operation with
  | create new => exact same.create fresh new
  | update user => exact same.update wellFormed.keys fresh user
  | delete id => exact same.delete wellFormed.keys fresh id
  | findByUsername username =>
      exact ⟨same.search wellFormed fresh (.findByUsername username) trivial, same⟩
  | findByEmail email => exact ⟨same.search wellFormed fresh (.findByEmail email) trivial, same⟩
  | findById id => exact ⟨same.search wellFormed fresh (.findById id) trivial, same⟩

/-- A name that one row has counts before an address that another has, in any order. -/
theorem SameRows.usernameTaken (same : table.SameRows other)
    (keys : (table.entries.map Prod.fst).Nodup) :
    (∀ fresh new, table.Holds none (·.username.text) new.username.text →
      (other.create fresh new).1 = .error .usernameTaken) ∧
    ∀ fresh user, (table.live? user.id).isSome →
      table.Holds (some user.id) (·.username.text) user.username.text →
      (other.update fresh user).1 = .error .usernameTaken := by
  constructor
  · intro fresh new held
    rw [← (same.create fresh new).1]
    rcases table.checkUnique_cases new.username.text new.email.text none with
      ⟨-, refused⟩ | ⟨free, -⟩ | ⟨free, -⟩
    · rw [create_of_refused fresh new refused]
    · exact absurd held free
    · exact absurd held free
  · intro fresh user live held
    rw [← (same.update keys fresh user).1]
    obtain ⟨row, found⟩ := Option.isSome_iff_exists.mp live
    rcases table.checkUnique_cases user.username.text user.email.text (some user.id) with
      ⟨-, refused⟩ | ⟨free, -⟩ | ⟨free, -⟩
    · rw [Table.update, found]
      simp only [refused]
    · exact absurd held free
    · exact absurd held free

/-! Tables in the course of time. -/

/-- Whether operations lead from the empty table to a table, whatever identifiers are generated and
in whatever order the rows come to stand meanwhile. -/
inductive Attainable : Table → Prop
  | empty : Attainable empty
  | perform {table : Table} (attainable : Attainable table) (fresh : Fresh)
      (operation : Operation) : Attainable (table.perform fresh operation).2
  | reorder {table other : Table} (attainable : Attainable table) (same : table.SameRows other) :
      Attainable other

theorem WellFormed.performed (wellFormed : table.WellFormed) (fresh : Fresh)
    (operation : Operation) : (table.perform fresh operation).2.WellFormed := by
  cases operation with
  | create new => exact wellFormed.created fresh new
  | update user => exact (wellFormed.update fresh user).1
  | delete id => exact (wellFormed.delete fresh id).1
  | findByUsername username => exact wellFormed
  | findByEmail email => exact wellFormed
  | findById id => exact wellFormed

theorem Attainable.wellFormed (attainable : table.Attainable) : table.WellFormed := by
  induction attainable with
  | empty => exact wellFormed_empty
  | perform _ fresh operation ih => exact ih.performed fresh operation
  | reorder _ same ih => exact same.wellFormed ih

end Table

open Table

variable {α β : Type} {memory other third : Memory}

theorem Table.Attainable.states (attainable : memory.table.Attainable)
    (program : Program Operation Operation.Result β) :
    ∀ copy ∈ program.states Memory.perform memory, copy.table.Attainable := by
  induction program generalizing memory with
  | done value =>
      intro copy member
      rw [List.mem_singleton.mp member]
      exact attainable
  | ask operation next ih =>
      intro copy member
      rcases List.mem_cons.mp member with here | later
      · rw [here]
        exact attainable
      · exact ih _ (attainable.perform memory.supply.next.1 operation) copy later

theorem Table.Attainable.execute (attainable : memory.table.Attainable) (call : Call α) :
    (call.execute memory).table.Attainable := by
  cases call with
  | operation operation => exact attainable.perform memory.supply.next.1 operation
  | transaction work =>
      rw [Call.execute, Memory.transact_eq]
      by_cases well : (work.run Memory.perform memory).1.succeeded = true
      · simp only [well, if_true]
        exact attainable.states work _ (Program.run_mem_states Memory.perform work memory)
      · simp only [well, if_false, Bool.false_eq_true]
        exact attainable

theorem attainable_executeAll (supply : Supply) (calls : List (Call α)) :
    (calls.foldl Call.execute ⟨Table.empty, supply⟩).table.Attainable := by
  have onward : ∀ memory : Memory, memory.table.Attainable →
      (calls.foldl Call.execute memory).table.Attainable := by
    induction calls with
    | nil => exact fun memory attainable => attainable
    | cons call calls ih => exact fun memory attainable => ih _ (attainable.execute call)
  exact onward _ .empty

structure Memory.Reorders (memory other : Memory) : Prop where
  rows : memory.table.SameRows other.table
  supply : memory.supply = other.supply

/-- The runs of a program on a memory whose rows may come to stand in any other order before each
operation and at the end, with what the operations give, the value and the memory that is left. -/
inductive Shuffles : Program Operation Operation.Result β → Memory → List Answered → β → Memory →
    Prop
  | done {value : β} {memory final : Memory} (reorders : memory.Reorders final) :
      Shuffles (.done value) memory [] value final
  | ask {operation : Operation} {next : operation.Result → Program Operation Operation.Result β}
      {memory other final : Memory} {answers : List Answered} {value : β}
      (reorders : memory.Reorders other)
      (rest : Shuffles (next (Memory.perform operation other).1)
        (Memory.perform operation other).2 answers value final) :
      Shuffles (.ask operation next) memory
        (⟨operation, (Memory.perform operation other).1⟩ :: answers) value final

theorem Memory.Reorders.refl (memory : Memory) : memory.Reorders memory :=
  ⟨SameRows.refl _, rfl⟩

theorem Memory.Reorders.symm (reorders : memory.Reorders other) : other.Reorders memory :=
  ⟨reorders.rows.symm, reorders.supply.symm⟩

theorem Memory.Reorders.trans (reorders : memory.Reorders other) (again : other.Reorders third) :
    memory.Reorders third :=
  ⟨reorders.rows.trans again.rows, reorders.supply.trans again.supply⟩

theorem Memory.Reorders.perform (reorders : memory.Reorders other)
    (wellFormed : memory.table.WellFormed) (operation : Operation) :
    (Memory.perform operation memory).1 = (Memory.perform operation other).1 ∧
      (Memory.perform operation memory).2.Reorders (Memory.perform operation other).2 := by
  obtain ⟨table, supply⟩ := memory
  obtain ⟨table', supply'⟩ := other
  obtain ⟨same, rfl⟩ := reorders
  have outcome := SameRows.perform same wellFormed supply.next.1 operation
  exact ⟨outcome.1, outcome.2, rfl⟩

theorem shuffles_run (program : Program Operation Operation.Result β) (memory : Memory) :
    Shuffles program memory (program.transcript Memory.perform memory)
      (program.run Memory.perform memory).1 (program.run Memory.perform memory).2 := by
  induction program generalizing memory with
  | done value => exact .done (.refl memory)
  | ask operation next ih => exact .ask (.refl memory) (ih _ _)

/-- Whatever orders the rows come to stand in, a program runs as it does without them. -/
theorem Shuffles.run {program : Program Operation Operation.Result β} {answers : List Answered}
    {value : β} {final : Memory} (shuffles : Shuffles program other answers value final)
    (reorders : memory.Reorders other) (wellFormed : memory.table.WellFormed) :
    answers = program.transcript Memory.perform memory ∧
      value = (program.run Memory.perform memory).1 ∧
      (program.run Memory.perform memory).2.Reorders final := by
  induction shuffles generalizing memory with
  | done last => exact ⟨rfl, rfl, reorders.trans last⟩
  | @ask operation next _ _ _ _ _ shuffled _ ih =>
      obtain ⟨same, later⟩ := (reorders.trans shuffled).perform wellFormed operation
      have rest := ih later (wellFormed.performed memory.supply.next.1 operation)
      rw [← same] at rest ⊢
      exact ⟨congrArg (List.cons _) rest.1, rest.2⟩

/-- The order of the rows is never told. In any two orders of the rows of a table users are created,
updated and deleted alike or refused for the same reason, and a name that is taken counts before an
address, be it another row that has the address. If the table can be attained, every search finds
the same in both, and a program of operations, each of which may depend on the results of those
before it, gives the same results and leaves the same rows, however the rows come to be reordered
while it runs. -/
theorem order_is_never_told {table other : Table} (keys : (table.entries.map Prod.fst).Nodup)
    (same : table.SameRows other) :
    (∀ fresh new, SameOutcome (table.create fresh new) (other.create fresh new)) ∧
    (∀ fresh user, SameOutcome (table.update fresh user) (other.update fresh user)) ∧
    (∀ fresh id, SameOutcome (table.delete fresh id) (other.delete fresh id)) ∧
    ((∀ fresh new, table.Holds none (·.username.text) new.username.text →
      (other.create fresh new).1 = .error .usernameTaken) ∧
    ∀ fresh user, (table.live? user.id).isSome →
      table.Holds (some user.id) (·.username.text) user.username.text →
      (other.update fresh user).1 = .error .usernameTaken) ∧
    (table.Attainable →
      (∀ fresh operation, operation.IsSearch →
        (table.perform fresh operation).1 = (other.perform fresh operation).1) ∧
      ∀ (β : Type) (program : Program Operation Operation.Result β) supply answers answers'
        value value' final final',
        Shuffles program ⟨table, supply⟩ answers value final →
        Shuffles program ⟨other, supply⟩ answers' value' final' →
        answers = answers' ∧ value = value' ∧ final.Reorders final') := by
  refine ⟨same.create, same.update keys, same.delete keys, same.usernameTaken keys, ?_⟩
  intro attainable
  have wellFormed := attainable.wellFormed
  refine ⟨same.search wellFormed, ?_⟩
  intro β program supply answers answers' value value' final final' shuffles shuffles'
  have reorders : Memory.Reorders ⟨table, supply⟩ ⟨other, supply⟩ := ⟨same, rfl⟩
  obtain ⟨answered, ended, left⟩ := shuffles.run (.refl _) wellFormed
  obtain ⟨answered', ended', left'⟩ := shuffles'.run reorders wellFormed
  exact ⟨answered.trans answered'.symm, ended.trans ended'.symm, left.symm.trans left'⟩

/-- Two rows in two orders. The name of one of them is asked for with the address of the other, and
then the address is looked for. -/
theorem order_is_never_told_clash :
    let new : String → String → NewUser := fun name email => ⟨⟨name⟩, ⟨email⟩, ⟨""⟩, .user⟩
    let row : Nat → String → Uuid × User := fun place name =>
      ((countingSupply.piece place).id,
        createdRow (countingSupply.piece place) (new name (name ++ "@example.com")))
    let table : Table := ⟨[row 0 "alice", row 1 "bob"]⟩
    let other : Table := ⟨[row 1 "bob", row 0 "alice"]⟩
    let clash := new "alice" "bob@example.com"
    let program : Program Operation Operation.Result (Except Failure User) :=
      .ask (.create clash) fun _ => .ask (.findByEmail " Bob@Example.com") .done
    (table.entries.map Prod.fst).Nodup ∧ table.SameRows other ∧ table.Attainable ∧
    (other.create (countingSupply.piece 2) clash).1 = .error .usernameTaken ∧
    (program.run Memory.perform ⟨table, countingSupply⟩).1 =
      (program.run Memory.perform ⟨other, countingSupply⟩).1 := by
  intro new row table other clash program
  have keys : (table.entries.map Prod.fst).Nodup := by decide +kernel
  have same : table.SameRows other := List.Perm.swap _ _ _
  have attainable : table.Attainable := by
    let calls : List (Call Unit) :=
      [.operation (.create (new "alice" "alice@example.com")),
        .operation (.create (new "bob" "bob@example.com"))]
    have reached : (calls.foldl Call.execute ⟨Table.empty, countingSupply⟩).table = table := by
      decide +kernel
    rw [← reached]
    exact attainable_executeAll countingSupply calls
  obtain ⟨-, -, -, ⟨taken, -⟩, later⟩ := order_is_never_told keys same
  obtain ⟨-, runs⟩ := later attainable
  refine ⟨keys, same, attainable, taken _ clash (by decide +kernel), ?_⟩
  exact (runs _ program countingSupply _ _ _ _ _ _ (shuffles_run program ⟨table, countingSupply⟩)
    (shuffles_run program ⟨other, countingSupply⟩)).2.1

end Accounts.Store
