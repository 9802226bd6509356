import Accounts.Http.Api
import Accounts.Proofs.Json.Records

/-! The class of a failure. It is one class wherever it is told: of the failure itself, of the
problem that it is made into, and by the response in its status and in its document. Behind attempts
to undo a transaction that have failed as well it is that of the failure before them. -/

namespace Accounts

open Json Text

/-! Failures of storage. -/

def Kind.isPersonal : Kind → Bool
  | .unauthorized | .forbidden => true
  | _ => false

namespace Store.StorageError

theorem kindOfCode_impersonal (code : String) : (kindOfCode code).isPersonal = false := by
  unfold kindOfCode
  split
  · rfl
  · split
    · rfl
    · split <;> rfl

theorem kind_impersonal (error : StorageError) : error.kind.isPersonal = false := by
  cases error with
  | reported report =>
      obtain ⟨code, message, violated⟩ := report
      cases code with
      | none => rfl
      | some code => exact kindOfCode_impersonal code
  | _ => rfl

theorem kind_problem (error : StorageError) : error.problem.kind = error.kind := by
  have impersonal := error.kind_impersonal
  unfold problem
  cases kind : error.kind with
  | unauthorized =>
      rw [kind] at impersonal
      contradiction
  | forbidden =>
      rw [kind] at impersonal
      contradiction
  | _ => rfl

end Store.StorageError

/-! Problems as clients read them. -/

theorem Kind.status_le (kind : Kind) : kind.status ≤ 503 := by
  cases kind <;> decide

structure Told where
  type : String
  title : String
  status : Int
  detail : String
  action : Option String

namespace Told

def members : Members [Option String, String, Int, String, String] :=
  .cons "action" (optional text) none <| .cons "detail" text none <|
  .cons "status" integer none <| .cons "title" text none <| .cons "type" text none .nil

def reader : Reader Told := do
  let (action, detail, status, title, type, _) ← recordOf members
  pure { type, title, status, detail, action }

def ofProblem (problem : Problem) : Told where
  type := "https://httpstatuses.io/" ++ String.ofList (decimal problem.kind.status)
  title := problem.kind.reason
  status := problem.kind.status
  detail := problem.detail
  action := problem.action

theorem action_reads (action : Option String) :
    Reads (optional text) (match action with | none => Value.null | some said => .text said).bytes
      action := by
  cases action with
  | none => exact optional_null_reads text
  | some said => exact optional_text_reads said

theorem reader_reads (problem : Problem) :
    Reads reader problem.document.bytes (ofProblem problem) := by
  have bound := problem.kind.status_le
  have status : Reads integer (Value.integer problem.kind.status).bytes problem.kind.status :=
    integer_reads (by omega) (by omega)
  have inOrder : members.InOrder _ (problem.action, problem.detail, (problem.kind.status : Int),
      problem.kind.reason, (ofProblem problem).type, ()) :=
    .cons (action_reads problem.action) (by simp) <|
    .cons (text_reads _) (by simp) <|
    .cons status (by simp) <|
    .cons (text_reads _) (by simp) <|
    .cons (text_reads _) (by simp) .nil
  intro rest ends
  have read := inOrder.reads rest ends
  have document : problem.document = .record
      [("action", match problem.action with | none => .null | some action => .text action),
        ("detail", .text problem.detail), ("status", .integer problem.kind.status),
        ("title", .text problem.kind.reason), ("type", .text (ofProblem problem).type)] := rfl
  rw [reader, document, bind_of_ok read]
  rfl

theorem readAll_document (problem : Problem) :
    readAll reader (utf8 problem.document.render) = .ok (ofProblem problem) := by
  have read := reader_reads problem [] ends_nil
  rw [List.append_nil] at read
  rw [utf8_render, readAll_of_ok read]

end Told

/-! Failures. -/

namespace Failure

def innermost : Failure → Failure
  | .rollbackFailed source _ => source.innermost
  | failure => failure

def failedRollbacks : Failure → Nat
  | .rollbackFailed source _ => source.failedRollbacks + 1
  | _ => 0

theorem failedRollbacks_innermost (failure : Failure) : failure.innermost.failedRollbacks = 0 := by
  induction failure with
  | rollbackFailed source rollback ih => exact ih
  | _ => rfl

theorem kind_problem (failure : Failure) : failure.problem.kind = failure.kind := by
  induction failure with
  | storage error => exact error.kind_problem
  | rollbackFailed source rollback ih => exact ih
  | _ => rfl

theorem kind_innermost (failure : Failure) : failure.innermost.kind = failure.kind := by
  induction failure with
  | rollbackFailed source rollback ih => exact ih
  | _ => rfl

theorem problem_innermost (failure : Failure) : failure.innermost.problem = failure.problem := by
  induction failure with
  | rollbackFailed source rollback ih => exact ih
  | _ => rfl

/-- Whether all that is told of a failure is of one class. -/
structure IsOf (failure : Failure) (one : Kind) : Prop where
  kind : failure.kind = one
  status : failure.status = one.status
  problem : failure.problem.kind = one
  response : (Http.failureResponse failure).status = one.status
  document : ∃ told, readAll Told.reader (utf8 (Http.failureResponse failure).body) = .ok told ∧
    told.status = one.status ∧ told.title = one.reason ∧
    told.type = "https://httpstatuses.io/" ++ String.ofList (decimal one.status)

theorem isOf_kind (failure : Failure) : failure.IsOf failure.kind where
  kind := rfl
  status := rfl
  problem := failure.kind_problem
  response := congrArg Kind.status failure.kind_problem
  document := by
    refine ⟨_, Told.readAll_document failure.problem, ?_⟩
    rw [← failure.kind_problem]
    exact ⟨rfl, rfl, rfl⟩

end Failure

/-- The class of a failure is told consistently, whatever the failure is and however many attempts
to undo a transaction have failed behind it: the failure, the problem that it is made into, the
status of the response and the document in it have one class, which is that of the first failure. -/
theorem failures_have_one_class (failure : Failure) :
    failure.IsOf failure.kind ∧ failure.innermost.IsOf failure.kind ∧
      failure.innermost.failedRollbacks = 0 ∧ failure.innermost.problem = failure.problem ∧
      Http.failureResponse failure.innermost = Http.failureResponse failure := by
  have problem := failure.problem_innermost
  refine ⟨failure.isOf_kind, ?_, failure.failedRollbacks_innermost, problem, ?_⟩
  · rw [← failure.kind_innermost]
    exact failure.innermost.isOf_kind
  · rw [Http.failureResponse, Http.failureResponse, problem]

end Accounts
