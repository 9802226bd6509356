import Accounts.Proofs.Store.Finish

/-! What a client is told of a failure. The texts that are meant for the operator, and what a
database driver says, make no difference to it, however deep they lie within a failure. -/

namespace Accounts

/-- Whether failures of one shape differ in nothing but what is not for clients: reasons of the
server, causes of refused tokens, what became of an attempt to undo a transaction, and failures of
storage of one class. -/
inductive Failure.Resembles : Failure → Failure → Prop
  | same (failure : Failure) : Resembles failure failure
  | configuration (reason other : String) : Resembles (.configuration reason) (.configuration other)
  | internal (reason other : String) : Resembles (.internal reason) (.internal other)
  | invalidToken (reason other : Token.TokenError) :
      Resembles (.invalidToken reason) (.invalidToken other)
  | storage {error other : Store.StorageError} (kind : error.kind = other.kind) :
      Resembles (.storage error) (.storage other)
  | rollbackFailed {source other : Failure} (sources : Resembles source other)
      (rollback rollback' : String) :
      Resembles (.rollbackFailed source rollback) (.rollbackFailed other rollback')

namespace Failure

variable {failure other : Failure}

theorem Resembles.problem_eq (resembles : failure.Resembles other) :
    failure.problem = other.problem := by
  induction resembles with
  | same failure => rfl
  | configuration reason other => rfl
  | internal reason other => rfl
  | invalidToken reason other => rfl
  | storage kind => simp only [Failure.problem, Store.StorageError.problem, kind]
  | rollbackFailed sources rollback rollback' ih => exact ih

theorem Resembles.kind_eq (resembles : failure.Resembles other) : failure.kind = other.kind := by
  induction resembles with
  | same failure => rfl
  | configuration reason other => rfl
  | internal reason other => rfl
  | invalidToken reason other => rfl
  | storage kind => exact kind
  | rollbackFailed sources rollback rollback' ih => exact ih

theorem Resembles.alike (resembles : failure.Resembles other) : failure.Alike other where
  kind := resembles.kind_eq
  status := congrArg Kind.status resembles.kind_eq
  response := by rw [Http.failureResponse, Http.failureResponse, resembles.problem_eq]

theorem storage_problem_of_isServerError {error : Store.StorageError}
    (server : error.kind.isServerError = true) :
    error.problem = { kind := .internal, detail := "internal server error" } ∨
      error.problem = { kind := .unavailable, detail := "service unavailable" } := by
  unfold Store.StorageError.problem
  cases kind : error.kind with
  | internal => exact .inl rfl
  | unavailable => exact .inr rfl
  | _ =>
      rw [kind] at server
      contradiction

theorem problem_of_isServerError (server : failure.kind.isServerError = true) :
    failure.problem = { kind := .internal, detail := "internal server error" } ∨
      failure.problem = { kind := .unavailable, detail := "service unavailable" } := by
  -- The induction goes through the failures behind which a transaction could not be undone.
  induction failure with
  | configuration reason => exact .inl rfl
  | internal reason => exact .inl rfl
  | storage error => exact storage_problem_of_isServerError server
  | rollbackFailed source rollback ih => exact ih server
  | _ => contradiction

end Failure

/-- Failures are sanitized. Those that differ in nothing but what is not for clients are one problem
and one response, and a failure of the server is told by one of two texts alone. -/
theorem failures_sanitized :
    (∀ failure other : Failure, failure.Resembles other →
      failure.problem = other.problem ∧ failure.Alike other) ∧
    ∀ failure : Failure, failure.kind.isServerError = true →
      failure.problem = { kind := .internal, detail := "internal server error" } ∨
        failure.problem = { kind := .unavailable, detail := "service unavailable" } := by
  constructor
  · intro failure other resembles
    exact ⟨resembles.problem_eq, resembles.alike⟩
  · intro failure server
    exact Failure.problem_of_isServerError server

/-- A refused connection and a broken one, behind two attempts to undo a transaction. -/
theorem failures_sanitized_nested :
    let full : Store.StorageError :=
      .reported { code := some "53300", message := "too many connections for role accounts" }
    let broken : Store.StorageError := .io "db.internal:5432: connection reset"
    let failure : Failure := .rollbackFailed (.rollbackFailed (.storage full) "timed out") "closed"
    let other : Failure := .rollbackFailed (.rollbackFailed (.storage broken) "") "reset by peer"
    failure.Resembles other ∧ failure.Alike other ∧ failure.kind.isServerError = true ∧
    failure.problem = { kind := .unavailable, detail := "service unavailable" } := by
  intro full broken failure other
  have kind : full.kind = broken.kind := by decide
  have resembles : failure.Resembles other :=
    .rollbackFailed (.rollbackFailed (.storage kind) "timed out" "") "closed" "reset by peer"
  have server : failure.kind.isServerError = true := rfl
  refine ⟨resembles, (failures_sanitized.1 failure other resembles).2, server, ?_⟩
  rcases failures_sanitized.2 failure server with internal | unavailable
  · have different : failure.problem.kind = .unavailable := rfl
    rw [internal] at different
    contradiction
  · exact unavailable

end Accounts
