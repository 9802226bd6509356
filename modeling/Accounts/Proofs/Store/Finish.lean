import Accounts.Http.Api
import Accounts.Proofs.Store.Transaction

/-! How a transaction ends. Whatever its work does, it is finished once and after the work, and a
client is told of the failure of the work alone, whether or not the work could be undone. -/

namespace Accounts

structure Failure.Alike (failure other : Failure) : Prop where
  kind : failure.kind = other.kind
  status : failure.status = other.status
  response : Http.failureResponse failure = Http.failureResponse other

theorem Failure.Alike.refl (failure : Failure) : failure.Alike failure := ⟨rfl, rfl, rfl⟩

theorem Failure.alike_rollbackFailed (source : Failure) (rollback : String) :
    (Failure.rollbackFailed source rollback).Alike source := ⟨rfl, rfl, rfl⟩

namespace Store

inductive Step (Ask : Type)
  | within (request : Ask)
  | commit
  | rollback

abbrev Step.Reply {Ask : Type} (Reply : Ask → Type) : Step Ask → Type
  | .within request => Reply request
  | .commit | .rollback => Except Failure Unit

variable {Ask : Type} {Reply : Ask → Type} {α σ : Type}

/-! The attempt to finish a transaction. -/

def Scope.attempt {m : Type → Type} (scope : Scope m) (ending : Ending α) :
    m (Except Failure Unit) :=
  if ending.succeeded then scope.commit else scope.rollback

def Ending.attempted : Ending α → Except Failure Unit → Ending α
  | .returned (.ok value), .ok () => .returned (.ok value)
  | .returned (.ok _), .error failure => .returned (.error failure)
  | .returned (.error failure), .ok () => .returned (.error failure)
  | .returned (.error failure), .error rollback =>
    .returned (.error (.rollbackFailed failure rollback.message))
  | .panicked message, _ => .panicked message

theorem Scope.finish_eq {m : Type → Type} [Monad m] (scope : Scope m) (ending : Ending α) :
    scope.finish ending =
      scope.attempt ending >>= fun attempt => pure (ending.attempted attempt) := by
  rcases ending with (failure | value) | message
  · apply congrArg (scope.rollback >>= ·)
    funext attempt
    cases attempt <;> rfl
  · apply congrArg (scope.commit >>= ·)
    funext attempt
    cases attempt <;> rfl
  · rfl

/-! A transaction as a program. -/

def Step.exchanged (exchanged : (request : Ask) × Reply request) :
    (step : Step Ask) × step.Reply Reply :=
  ⟨.within exchanged.1, exchanged.2⟩

def Scope.asking : Scope (Program (Step Ask) (Step.Reply Reply)) where
  commit := Program.request Step.commit
  rollback := Program.request Step.rollback

def whole (work : Program Ask Reply (Ending α)) :
    Program (Step Ask) (Step.Reply Reply) (Ending α) :=
  Scope.asking.run (work.run fun request => Program.request (Step.within request))

theorem whole_eq (work : Program Ask Reply (Ending α)) :
    whole work = (work.run fun request => Program.request (Step.within request)) >>=
      Scope.asking.finish := rfl

section Answers

variable (scope : Scope (StateM σ)) (perform : (request : Ask) → StateM σ (Reply request))

def Scope.answering : (step : Step Ask) → StateM σ (step.Reply Reply)
  | .within request => perform request
  | .commit => scope.commit
  | .rollback => scope.rollback

theorem run_asking (ending : Ending α) (state : σ) :
    (Scope.asking.attempt ending).run (scope.answering perform) state =
      scope.attempt ending state := by
  unfold Scope.attempt
  split <;> rfl

theorem run_finish (ending : Ending α) (state : σ) :
    (Scope.asking.finish ending).run (scope.answering perform) state =
      scope.finish ending state := by
  rw [Scope.finish_eq, Scope.finish_eq, Program.run_bind, run_asking]
  rfl

theorem run_whole (work : Program Ask Reply (Ending α)) (state : σ) :
    (whole work).run (scope.answering perform) state = scope.run (work.run perform) state := by
  rw [whole_eq, Program.run_bind, Program.run_run, run_finish]
  rfl

theorem transcript_within (work : Program Ask Reply α) (state : σ) :
    (work.run fun request => Program.request (Step.within request)).transcript
      (scope.answering perform) state = (work.transcript perform state).map Step.exchanged := by
  induction work generalizing state with
  | done value => rfl
  | ask request next ih => exact congrArg (List.cons _) (ih _ _)

def Scope.lastStep (ending : Ending α) (state : σ) : (step : Step Ask) × step.Reply Reply :=
  if ending.succeeded then ⟨.commit, (scope.commit state).1⟩
  else ⟨.rollback, (scope.rollback state).1⟩

theorem transcript_finish (ending : Ending α) (state : σ) :
    (Scope.asking.finish ending).transcript (scope.answering perform) state =
      [scope.lastStep ending state] := by
  rw [Scope.finish_eq, Program.transcript_bind]
  unfold Scope.attempt Scope.lastStep
  split <;> rfl

theorem transcript_whole (work : Program Ask Reply (Ending α)) (state : σ) :
    (whole work).transcript (scope.answering perform) state =
      (work.transcript perform state).map Step.exchanged ++
        [scope.lastStep (work.run perform state).1 (work.run perform state).2] := by
  rw [whole_eq, Program.transcript_bind, transcript_within, Program.run_run, transcript_finish]
  rfl

end Answers

/-! What a transaction comes to. -/

/-- What the result of a transaction owes to the ending of its work and to what becomes of an
attempt to commit it or to roll it back. -/
structure Finished (ending : Ending α) (commit rollback : Except Failure Unit)
    (result : Ending α) : Prop where
  committed : ∀ value, result = .returned (.ok value) ↔
    ending = .returned (.ok value) ∧ commit = .ok ()
  uncommitted : ∀ value failure, ending = .returned (.ok value) → commit = .error failure →
    result = .returned (.error failure)
  undone : ∀ failure, ending = .returned (.error failure) → rollback = .ok () →
    result = .returned (.error failure)
  stuck : ∀ failure error, ending = .returned (.error failure) → rollback = .error error →
    result = .returned (.error (.rollbackFailed failure error.message))
  panicked : ∀ message, result = .panicked message ↔ ending = .panicked message
  told : ∀ failure, ending = .returned (.error failure) →
    ∃ told, result = .returned (.error told) ∧ told.Alike failure

theorem finished_attempted (ending : Ending α) (commit rollback : Except Failure Unit) :
    Finished ending commit rollback
      (ending.attempted (if ending.succeeded then commit else rollback)) where
  committed := by
    intro value
    rcases ending with (failure | value) | message
    · cases rollback <;> simp [Ending.succeeded, Ending.attempted]
    · cases commit <;> simp [Ending.succeeded, Ending.attempted]
    · simp [Ending.attempted]
  uncommitted := by
    rintro value failure rfl rfl
    rfl
  undone := by
    rintro failure rfl rfl
    rfl
  stuck := by
    rintro failure error rfl rfl
    rfl
  panicked := by
    intro message
    rcases ending with (failure | value) | message
    · cases rollback <;> simp [Ending.succeeded, Ending.attempted]
    · cases commit <;> simp [Ending.succeeded, Ending.attempted]
    · simp [Ending.attempted]
  told := by
    rintro failure rfl
    cases rollback with
    | ok undone => exact ⟨failure, rfl, Failure.Alike.refl failure⟩
    | error error => exact ⟨_, rfl, Failure.alike_rollbackFailed failure error.message⟩

theorem finished_finish (scope : Scope (StateM σ)) (ending : Ending α) (state : σ) :
    Finished ending (scope.commit state).1 (scope.rollback state).1
      (scope.finish ending state).1 := by
  have attempt : (scope.attempt ending state).1 =
      if ending.succeeded then (scope.commit state).1 else (scope.rollback state).1 := by
    unfold Scope.attempt
    split <;> rfl
  have finished : (scope.finish ending state).1 =
      ending.attempted (scope.attempt ending state).1 := by
    rw [Scope.finish_eq]
    rfl
  rw [finished, attempt]
  exact finished_attempted ending _ _

/-- A transaction is finished once and after its work: it is committed if the work went well and
rolled back otherwise, and there is no other attempt. Its result is that of the work if this was
possible, the failure to commit work that went well, or both failures where work that failed could
not be undone, which a client cannot tell from the first. Work that breaks off does so whatever
becomes of the attempt to undo it. -/
theorem transaction_finished_once (scope : Scope (StateM σ))
    (perform : (request : Ask) → StateM σ (Reply request))
    (work : Program Ask Reply (Ending α)) (state : σ) :
    let ending := (work.run perform state).1
    let after := (work.run perform state).2
    (whole work).run (scope.answering perform) state = scope.run (work.run perform) state ∧
    (whole work).transcript (scope.answering perform) state =
      (work.transcript perform state).map Step.exchanged ++
        [if ending.succeeded then ⟨.commit, (scope.commit after).1⟩
          else ⟨.rollback, (scope.rollback after).1⟩] ∧
    Finished ending (scope.commit after).1 (scope.rollback after).1
      (scope.run (work.run perform) state).1 :=
  ⟨run_whole scope perform work state, transcript_whole scope perform work state,
    finished_finish scope _ _⟩

end Store

end Accounts
