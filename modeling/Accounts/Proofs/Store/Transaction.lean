import Accounts.Proofs.Program
import Accounts.Proofs.Store.Table
import Accounts.Store.Memory

/-! What a transaction on a store in memory comes to: its operations are performed on the table one
after another, and what they did to it stays only if the work went well. A program of operations
gives the same within a transaction as without one. -/

namespace Accounts.Store

variable {α β : Type}

def Ending.succeeded : Ending α → Bool
  | .returned (.ok _) => true
  | _ => false

namespace Memory

namespace Staging

theorem perform_eq (operation : Operation) (copy : Memory) (committed : Table) :
    Staging.perform operation ⟨copy, committed⟩ =
      ((Memory.perform operation copy).1, ⟨(Memory.perform operation copy).2, committed⟩) := rfl

theorem run_eq (work : Work α) (copy : Memory) (committed : Table) :
    work.run Staging.perform ⟨copy, committed⟩ =
      ((work.run Memory.perform copy).1, ⟨(work.run Memory.perform copy).2, committed⟩) := by
  induction work generalizing copy with
  | done ending => rfl
  | ask operation next ih =>
      rw [Program.run_ask, Program.run_ask, perform_eq]
      exact ih _ _

theorem finish_eq (ending : Ending α) (copy : Memory) (committed : Table) :
    scope.finish ending ⟨copy, committed⟩ =
      (ending, ⟨copy, if ending.succeeded then copy.table else committed⟩) := by
  rcases ending with (failure | value) | message <;> rfl

end Staging

theorem transact_eq (work : Work α) (memory : Memory) :
    Memory.transact work memory =
      ((work.run Memory.perform memory).1,
        ⟨if (work.run Memory.perform memory).1.succeeded
          then (work.run Memory.perform memory).2.table else memory.table,
          (work.run Memory.perform memory).2.supply⟩) := by
  have finished := Staging.finish_eq (work.run Memory.perform memory).1
    (work.run Memory.perform memory).2 memory.table
  have worked := Staging.run_eq work memory memory.table
  change ((Staging.scope.run (work.run Staging.perform) (stage memory)).1,
    (Staging.scope.run (work.run Staging.perform) (stage memory)).2.close) = _
  have ran : Staging.scope.run (work.run Staging.perform) (stage memory) =
      Staging.scope.finish (work.run Staging.perform (stage memory)).1
        (work.run Staging.perform (stage memory)).2 := rfl
  rw [ran, stage, worked, finished]
  rfl

theorem abandon_table (work : Work α) (memory : Memory) :
    (Memory.abandon work memory).2.table = memory.table := by
  change ((work.run Staging.perform (stage memory)).2.close).table = memory.table
  rw [stage, Staging.run_eq]
  rfl

end Memory

/-! Programs of operations, within a transaction and without one. -/

def Work.concluding (program : Program Operation Operation.Result β) (conclude : β → Ending α) :
    Program Operation Operation.Result (Ending α) :=
  program >>= fun value => .done (conclude value)

def Work.single (operation : Operation) : Work operation.Value :=
  .ask operation fun result => .done (.returned result)

namespace Memory

theorem transcript_staging (work : Program Operation Operation.Result β) (copy : Memory)
    (committed : Table) :
    work.transcript Staging.perform ⟨copy, committed⟩ = work.transcript Memory.perform copy := by
  induction work generalizing copy with
  | done value => rfl
  | ask operation next ih => exact congrArg (List.cons _) (ih _ _)

theorem transcript_concluding (program : Program Operation Operation.Result β)
    (conclude : β → Ending α) (memory : Memory) :
    (Work.concluding program conclude).transcript Memory.perform memory =
      program.transcript Memory.perform memory := by
  rw [Work.concluding, Program.transcript_bind]
  exact List.append_nil _

theorem transact_concluding (program : Program Operation Operation.Result β)
    (conclude : β → Ending α) (memory : Memory) :
    Memory.transact (Work.concluding program conclude) memory =
      (conclude (program.run Memory.perform memory).1,
        ⟨if (conclude (program.run Memory.perform memory).1).succeeded
          then (program.run Memory.perform memory).2.table else memory.table,
          (program.run Memory.perform memory).2.supply⟩) := by
  rw [transact_eq, Work.concluding, Program.run_bind]
  rfl

theorem transact_single (operation : Operation) (memory : Memory) :
    Memory.transact (Work.single operation) memory =
      (.returned (Memory.perform operation memory).1, (Memory.perform operation memory).2) := by
  rw [transact_eq, Work.single, Program.run_ask, Program.run_done]
  cases result : (Memory.perform operation memory).1 with
  | error failure =>
      have same : (Memory.perform operation memory).2.table = memory.table :=
        Table.perform_error result
      simp [Ending.succeeded, ← same]
  | ok value => rfl

/-- Operations give the same results one after another at a store as they do within a transaction,
each of them depending on those before it as it may. The transaction leaves behind what they leave
behind if it is concluded that they went well, even though some of them may have failed, and the
table as it was if not. A transaction of a single operation is that operation, also when it
fails. -/
theorem transaction_agrees_with_operations (program : Program Operation Operation.Result β)
    (conclude : β → Ending α) (memory : Memory) :
    let direct := program.run Memory.perform memory
    let work := Work.concluding program conclude
    work.transcript Staging.perform (stage memory) = program.transcript Memory.perform memory ∧
    (Memory.transact work memory).1 = conclude direct.1 ∧
    (Memory.transact work memory).2.table =
      (if (conclude direct.1).succeeded then direct.2.table else memory.table) ∧
    (Memory.transact work memory).2.supply = direct.2.supply ∧
    ∀ operation, Memory.transact (Work.single operation) memory =
      (.returned (Memory.perform operation memory).1, (Memory.perform operation memory).2) := by
  intro direct work
  have ran := transact_concluding program conclude memory
  refine ⟨?_, congrArg Prod.fst ran, congrArg (·.2.table) ran, congrArg (·.2.supply) ran,
    fun operation => transact_single operation memory⟩
  rw [stage, transcript_staging]
  exact transcript_concluding program conclude memory

end Memory

end Accounts.Store
