import Accounts.Problem
import Accounts.Text.Quoted

/-! What can go wrong between the service and a database server. -/

namespace Accounts.Store

structure Report where
  code : Option String
  message : String
  violated : Option String := none
  deriving DecidableEq, Repr

def Report.isUniqueViolation (report : Report) : Bool := report.code = some "23505"

inductive StorageError
  | rowNotFound
  | poolTimedOut
  | poolClosed
  | workerCrashed
  | beginFailed
  | io (reason : String)
  | protocol (reason : String)
  | configuration (reason : String)
  | columnNotFound (column : String)
  | typeNotFound (name : String)
  | decode (reason : String)
  | columnDecode (column reason : String)
  | tls (reason : String)
  | reported (report : Report)
  /-- Any further failure, by its wording. -/
  | other (reason : String)
  deriving DecidableEq, Repr

namespace StorageError

def message : StorageError → String
  | .rowNotFound => "no rows returned by a query that expected to return at least one row"
  | .poolTimedOut => "pool timed out while waiting for an open connection"
  | .poolClosed => "attempted to acquire a connection on a closed pool"
  | .workerCrashed => "attempted to communicate with a crashed background worker"
  | .beginFailed => "got unexpected connection status after attempting to begin transaction"
  | .io reason => "error communicating with database: " ++ reason
  | .protocol reason => "encountered unexpected or invalid data: " ++ reason
  | .configuration reason => "error with configuration: " ++ reason
  | .columnNotFound column => "no column found for name: " ++ column
  | .typeNotFound name => "type named " ++ name ++ " not found"
  | .decode reason => "error occurred while decoding: " ++ reason
  | .columnDecode column reason =>
    "error occurred while decoding column " ++ Text.quoted column ++ ": " ++ reason
  | .tls reason => "error occurred while attempting to establish a TLS connection: " ++ reason
  | .reported report => "error returned from database: " ++ report.message
  | .other reason => reason

/-- The class of the error with a code: a violated uniqueness, reference or integrity is a conflict,
a missing value or a failed check a bad request, and lacking resources (53) or an intervention of
the operator (57) make the server unavailable. -/
def kindOfCode (code : String) : Kind :=
  if code = "23505" ∨ code = "23503" ∨ code = "23000" then .conflict
  else if code = "23502" ∨ code = "23514" then .badRequest
  else match code.toList with
    | '5' :: '3' :: _ => .unavailable
    | '5' :: '7' :: _ => .unavailable
    | _ => .internal

def kind : StorageError → Kind
  | .rowNotFound => .notFound
  | .poolTimedOut | .poolClosed | .io _ => .unavailable
  | .reported { code := some code, .. } => kindOfCode code
  | _ => .internal

/-- What a client is told of a failure, which is nothing but its class. -/
def problem (error : StorageError) : Problem :=
  match error.kind with
  | .notFound => { kind := .notFound, detail := "record not found" }
  | .conflict => { kind := .conflict, detail := "conflicting record" }
  | .badRequest => { kind := .badRequest, detail := "invalid data" }
  | .unavailable => { kind := .unavailable, detail := "service unavailable" }
  | _ => { kind := .internal, detail := "internal server error" }

end StorageError

end Accounts.Store
