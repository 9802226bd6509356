import Accounts.Email
import Accounts.Password
import Accounts.Store.StorageError
import Accounts.Token.Error
import Accounts.UserName

/-! What can go wrong with a request, and what a client is told of it. -/

namespace Accounts

inductive Failure
  | validation (reason : String)
  | usernameTaken
  | emailTaken
  | invalidCredentials
  | invalidToken (reason : Token.TokenError)
  | missingToken
  | adminRequired
  | userNotFound
  | configuration (reason : String)
  | storage (error : Store.StorageError)
  /-- A transaction failed, and so did undoing it. -/
  | rollbackFailed (source : Failure) (rollback : String)
  | internal (reason : String)
  deriving DecidableEq, Repr

inductive LogLevel
  | error
  | warning
  | debug
  deriving DecidableEq, Repr

namespace Failure

/-- The wording of a failure, which may tell more than a client is told. -/
def message : Failure → String
  | .validation reason => reason
  | .usernameTaken => "username already exists"
  | .emailTaken => "email already exists"
  | .invalidCredentials => "invalid credentials"
  | .invalidToken _ => "invalid or expired token"
  | .missingToken => "missing bearer token"
  | .adminRequired => "admin role required"
  | .userNotFound => "user not found"
  | .configuration reason => "configuration error: " ++ reason
  | .storage error => "database error: " ++ error.message
  | .rollbackFailed source rollback =>
    source.message ++ " (rollback also failed: " ++ rollback ++ ")"
  | .internal reason => "internal error: " ++ reason

def kind : Failure → Kind
  | .validation _ => .badRequest
  | .usernameTaken | .emailTaken => .conflict
  | .invalidCredentials | .invalidToken _ | .missingToken => .unauthorized
  | .adminRequired => .forbidden
  | .userNotFound => .notFound
  | .configuration _ | .internal _ => .internal
  | .storage error => error.kind
  | .rollbackFailed source _ => source.kind

def status (failure : Failure) : Nat := failure.kind.status

def problem : Failure → Problem
  | .rollbackFailed source _ => source.problem
  | .validation reason => { kind := .badRequest, detail := reason }
  | .usernameTaken => { kind := .conflict, detail := message .usernameTaken }
  | .emailTaken => { kind := .conflict, detail := message .emailTaken }
  | .invalidCredentials => { kind := .unauthorized, detail := message .invalidCredentials }
  | .missingToken =>
    { kind := .unauthorized, detail := message .missingToken,
      action := some "Send an `Authorization: Bearer <token>` header" }
  | .invalidToken reason =>
    { kind := .unauthorized, detail := message (.invalidToken reason),
      action := some "Log in again" }
  | .adminRequired => { kind := .forbidden, detail := message .adminRequired }
  | .userNotFound => { kind := .notFound, detail := message .userNotFound }
  | .storage error => error.problem
  | .configuration _ | .internal _ => { kind := .internal, detail := "internal server error" }

def logLevel : Failure → LogLevel
  | .storage _ | .rollbackFailed _ _ | .configuration _ | .internal _ => .error
  | .invalidCredentials | .invalidToken _ => .warning
  | _ => .debug

def ofToken (error : Token.TokenError) : Failure :=
  if error.isConfiguration then .configuration error.message else .invalidToken error

def ofEmail (error : EmailError) : Failure := .validation error.message

def ofUserName (error : UserNameError) : Failure := .validation error.message

def ofPolicy (error : Password.PolicyError) : Failure := .validation error.message

def ofHash (error : Password.HashError) : Failure := .internal error.message

/-- The failure that a task amounts to which has come to no end of its own, from the report of what
has become of it. -/
def ofTask (report : String) : Failure := .internal ("blocking task failed: " ++ report)

end Failure

end Accounts
