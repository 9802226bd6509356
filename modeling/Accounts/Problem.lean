import Accounts.Json.Value

/-! What a client is told about a request that failed. -/

namespace Accounts

inductive Kind
  | badRequest
  | unauthorized
  | forbidden
  | notFound
  | conflict
  | internal
  | unavailable
  deriving DecidableEq, Repr

namespace Kind

def status : Kind → Nat
  | .badRequest => 400
  | .unauthorized => 401
  | .forbidden => 403
  | .notFound => 404
  | .conflict => 409
  | .internal => 500
  | .unavailable => 503

def reason : Kind → String
  | .badRequest => "Bad Request"
  | .unauthorized => "Unauthorized"
  | .forbidden => "Forbidden"
  | .notFound => "Not Found"
  | .conflict => "Conflict"
  | .internal => "Internal Server Error"
  | .unavailable => "Service Unavailable"

def isServerError (kind : Kind) : Bool := kind.status ≥ 500

end Kind

structure Problem where
  kind : Kind
  detail : String
  action : Option String := none
  deriving DecidableEq, Repr

namespace Problem

def summary (problem : Problem) : String :=
  String.ofList (Text.decimal problem.kind.status) ++ ": " ++ problem.detail ++
  match problem.action with
  | none => ""
  | some action => " (" ++ action ++ ")"

/-- The document of a problem, with its members in the order of their names. -/
def document (problem : Problem) : Json.Value :=
  let code := String.ofList (Text.decimal problem.kind.status)
  .record [
    ("action", match problem.action with | none => .null | some action => .text action),
    ("detail", .text problem.detail),
    ("status", .integer problem.kind.status),
    ("title", .text problem.kind.reason),
    ("type", .text ("https://httpstatuses.io/" ++ code))]

end Problem

end Accounts
