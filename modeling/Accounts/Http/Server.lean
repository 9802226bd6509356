import Accounts.Http.Api
import Accounts.Http.Message
import Accounts.Service.UseCases

/-! The server: the service below a base path, with a limit to the time of an answer, for pages of
the allowed origins. -/

namespace Accounts.Http

def isHeaderByte (byte : UInt8) : Bool := (0x20 ≤ byte && byte ≠ 0x7F) || byte = 0x09

def isHeaderValue (text : String) : Bool := (Text.utf8 text).all isHeaderByte

/-- The text that stands for every origin, which no list of origins may hold. -/
def anyOrigin : String := "*"

structure Cors where
  origins : List String
  named : anyOrigin ∉ origins

namespace Cors

/-- Allows those of some origins that can be header values, if every one of them is named. -/
def of? (origins : List String) : Option Cors :=
  let origins := origins.filter isHeaderValue
  if named : anyOrigin ∉ origins then some ⟨origins, named⟩ else none

def allowOrigin (cors : Cors) (request : Request) : List (String × String) :=
  match cors.origins.find? fun origin => some (Text.utf8 origin) = request.header? "origin" with
  | some origin => [("access-control-allow-origin", origin)]
  | none => []

def headers (cors : Cors) (request : Request) : List (String × String) :=
  cors.allowOrigin request ++ [
    ("access-control-allow-credentials", "true"),
    ("vary", "origin, access-control-request-method, access-control-request-headers")]

def permission : Response :=
  ⟨200,
    [("access-control-allow-methods", "GET,POST,OPTIONS"),
     ("access-control-allow-headers", "content-type,authorization,accept")],
    ""⟩

end Cors

/-! The server. -/

open Service

structure Server where
  instruments : Instruments
  cors : Cors
  /-- The seconds that an answer may take. -/
  patience : Nat

def basePath : List Char := "/api/v1".toList

def routeBelowBase? (path : String) : Option Route :=
  if path.toList.take basePath.length = basePath then
    Route.ofPath? (String.ofList (path.toList.drop basePath.length))
  else none

def timedOut : Response := .bare 408

namespace Server

variable {m : Type → Type} [Monad m]

/-- Answers a request in time. Without patience there is time for no more than what can be done at
once. -/
def answerInTime (server : Server) (backend : Backend m) (route : Option Route)
    (request : Request) : m Response :=
  let useCase := answerAt server.instruments.signer route request
  if server.patience = 0 then do
    let response ← backend.runAtOnce useCase
    pure (response.getD timedOut)
  else backend.run useCase

/-- Answers a request. A question for permission is answered whatever the path; a route adds what it
allows. -/
def answer (server : Server) (backend : Backend m) (request : Request) : m Response := do
  let route := routeBelowBase? request.path
  let response ←
    if request.method = "OPTIONS" then
      pure (Cors.permission.withHeaders ((route.map (allowHeader · "OPTIONS")).getD []))
    else server.answerInTime backend route request
  return response.withHeaders (server.cors.headers request)

end Server

end Accounts.Http
