import Accounts.Failure
import Accounts.Http.MediaType
import Accounts.Http.Message
import Accounts.Service.UseCases
import Accounts.Text.Scanner
import Accounts.Token.Signer
import Accounts.User
import Accounts.Wire

/-! Who may pass to a guarded route, the routes of the service, and what answers them. -/

namespace Accounts.Http

def bearerMark : List Char := "Bearer ".toList

def bearerToken? (value : List UInt8) : Option String :=
  match headerText? value with
  | none => none
  | some text =>
    if text.toList.take bearerMark.length = bearerMark then
      let token := Text.trim (String.ofList (text.toList.drop bearerMark.length))
      if token = "" then none else some token
    else none

/-- The claims of the token that a request presents, at a second. The first authorization header
alone counts. -/
def authenticate (signer : Token.Signer) (second : Int) (request : Request) :
    Except Failure Token.Claims :=
  match (request.header? "authorization").bind bearerToken? with
  | none => .error .missingToken
  | some token => (signer.validate second token).mapError Failure.ofToken

def requireAdmin (claims : Option Token.Claims) : Except Failure Token.Claims :=
  match claims with
  | none => .error .missingToken
  | some claims =>
    if (Role.ofCode claims.role).isAdmin then .ok claims else .error .adminRequired

/-! Routes. -/

open Service

inductive Route
  | ping
  | register
  | login
  | profile
  | adminTest
  deriving DecidableEq, Repr

namespace Route

def all : List Route := [.ping, .register, .login, .profile, .adminTest]

def path : Route → String
  | .ping => "/ping"
  | .register => "/auth/register"
  | .login => "/auth/login"
  | .profile => "/auth/profile"
  | .adminTest => "/admin/test"

def ofPath? (path : String) : Option Route := all.find? fun route => route.path = path

def posts : Route → Bool
  | .register | .login => true
  | _ => false

def guarded : Route → Bool
  | .profile | .adminTest => true
  | _ => false

def allows (route : Route) (method : String) : Bool :=
  if route.posts then method == "POST" else method == "GET" || method == "HEAD"

def allowed (route : Route) : String := if route.posts then "POST" else "GET,HEAD"

end Route

def failureResponse (failure : Failure) : Response :=
  .ofDocument failure.problem.kind.status failure.problem.document

def respond {α : Type} (status : Nat) (document : α → Json.Value) : Except Failure α → Response
  | .ok value => .ofDocument status (document value)
  | .error failure => failureResponse failure

def maxBodySize : Nat := 2 * 1024 * 1024

/-- Reads the document in the body of a request, or tells why it cannot be read: the media type
comes first, then the size, then the text, then its shape. Of what is told of a bad text or a wrong
shape only the beginning is here. A colon follows it, and behind that the parser's own message with
the place of the fault, which is left out. -/
def readDocument {α : Type} (reader : Json.Reader α) (request : Request) : Except Response α :=
  match ((request.header? "content-type").bind headerText?).bind MediaType.parse? with
  | none => .error (.ofText 415 "Expected request with `Content-Type: application/json`")
  | some type =>
    if !type.isJson then
      .error (.ofText 415 "Expected request with `Content-Type: application/json`")
    else if request.body.length > maxBodySize then
      .error (.ofText 413 "Failed to buffer the request body: length limit exceeded")
    else match Json.readAll reader request.body with
      | .ok value => .ok value
      | .error .mismatched =>
        .error (.ofText 422 "Failed to deserialize the JSON body into the target type")
      | .error _ => .error (.ofText 400 "Failed to parse the request body as JSON")

def sessionDocument (session : Session) : Json.Value :=
  (Wire.Session.mk session.token (Wire.Profile.ofView session.user)).document

def answerRegistration (signer : Token.Signer) (input : Wire.Registration) :
    UseCase (Except Failure Session) := do
  match input.check with
  | .error failure => return .error failure
  | .ok () =>
    register signer
      { username := input.username, email := input.email, password := input.password }

def answerProfile (claims : Token.Claims) : UseCase (Except Failure User) := do
  match Uuid.parse? claims.userId with
  | none => return .error (.invalidToken .invalidSubject)
  | some id => profile id

def adminMessage (claims : Token.Claims) : Wire.AdminMessage where
  message := "This is an admin-only endpoint"
  user := claims.username

def methodNotAllowed : Response := .bare 405

def passGuards (signer : Token.Signer) (route : Route) (second : Int) (request : Request) :
    Except Failure Token.Claims := do
  let claims ← authenticate signer second request
  if route = .adminTest then requireAdmin (some claims) else .ok claims

def answerGuarded (route : Route) (claims : Token.Claims) : UseCase Response := do
  if route = .adminTest then return .ofDocument 200 (adminMessage claims).document
  else
    return respond 200 (fun user => (Wire.Profile.ofView user.view).document)
      (← answerProfile claims)

def answerOpen (signer : Token.Signer) (route : Route) (request : Request) : UseCase Response := do
  match route with
  | .register =>
    match readDocument Wire.Registration.reader request with
    | .error response => return response
    | .ok input => return respond 201 sessionDocument (← answerRegistration signer input)
  | .login =>
    match readDocument Wire.Login.reader request with
    | .error response => return response
    | .ok input =>
      return respond 200 sessionDocument
        (← login signer { username := input.username, password := input.password })
  | _ => return .ofDocument 200 (Wire.Message.mk "pong").document

/-- Answers a request to a route. Guards come before the question whether the route answers the
method. -/
def answerRoute (signer : Token.Signer) (route : Route) (request : Request) : UseCase Response := do
  if route.guarded then
    let now ← ask .now
    match passGuards signer route now.second request with
    | .error failure => return failureResponse failure
    | .ok claims =>
      if route.allows request.method then answerGuarded route claims
      else return methodNotAllowed
  else if route.allows request.method then answerOpen signer route request
  else return methodNotAllowed

def allowHeader (route : Route) (method : String) : List (String × String) :=
  if route.allows method then [] else [("allow", route.allowed)]

/-- Answers a request whose path has led to a route or to none. No response to HEAD has a body. -/
def answerAt (signer : Token.Signer) (route : Option Route) (request : Request) :
    UseCase Response := do
  let response ←
    match route with
    | none => pure (Response.bare 404)
    | some route => do
      let response ← answerRoute signer route request
      pure (response.withHeaders (allowHeader route request.method))
  return if request.method = "HEAD" then response.withoutBody else response

def answer (signer : Token.Signer) (request : Request) : UseCase Response :=
  answerAt signer (Route.ofPath? request.path) request

end Accounts.Http
