import Accounts.Failure
import Accounts.Json.Records
import Accounts.Time
import Accounts.Token.Claims
import Accounts.User

/-! The documents that clients send and receive. -/

namespace Accounts.Wire

open Json

def uuid : Reader Uuid := textAs Uuid.parse?

def instant : Reader Time.Instant := textAs Time.Instant.parse?

structure Registration where
  username : String
  email : String
  password : String
  deriving DecidableEq, Repr

def minPasswordLength : Nat := 6

namespace Registration

def reader : Reader Registration := do
  let (username, email, password, _) ← recordOf <|
    .cons "username" text none <| .cons "email" text none <| .cons "password" text none .nil
  pure { username, email, password }

def check (registration : Registration) : Except Failure Unit :=
  if registration.password.length < minPasswordLength then
    .error (.validation s!"password must be at least {minPasswordLength} characters")
  else .ok ()

end Registration

structure Login where
  username : String
  password : String
  deriving DecidableEq, Repr

def Login.reader : Reader Login := do
  let (username, password, _) ← recordOf <|
    .cons "username" text none <| .cons "password" text none .nil
  pure { username, password }

structure Profile where
  id : Uuid
  username : String
  email : String
  role : String
  createdAt : Time.Instant
  updatedAt : Time.Instant
  deriving DecidableEq

namespace Profile

def members : Members [Uuid, String, String, String, Time.Instant, Time.Instant] :=
  .cons "id" uuid none <| .cons "username" text none <| .cons "email" text none <|
  .cons "role" text none <| .cons "createdAt" instant none <| .cons "updatedAt" instant none .nil

def reader : Reader Profile := do
  let (id, username, email, role, createdAt, updatedAt, _) ← recordOf members
  pure { id, username, email, role, createdAt, updatedAt }

def document (profile : Profile) : Value :=
  .record [
    ("id", .text profile.id.render), ("username", .text profile.username),
    ("email", .text profile.email), ("role", .text profile.role),
    ("createdAt", .text profile.createdAt.render), ("updatedAt", .text profile.updatedAt.render)]

def ofView (view : UserView) : Profile where
  id := view.id
  username := view.username.text
  email := view.email.text
  role := view.role.code
  createdAt := view.createdAt
  updatedAt := view.updatedAt

end Profile

structure Session where
  token : String
  user : Profile
  deriving DecidableEq

namespace Session

def reader : Reader Session := do
  let (token, user, _) ← recordOf <|
    .cons "token" text none <| .cons "user" Profile.reader none .nil
  pure { token, user }

def document (session : Session) : Value :=
  .record [("token", .text session.token), ("user", session.user.document)]

end Session

structure Message where
  message : String
  deriving DecidableEq, Repr

namespace Message

def reader : Reader Message := do
  let (message, _) ← recordOf <| .cons "message" text none .nil
  pure { message }

def document (message : Message) : Value := .record [("message", .text message.message)]

end Message

structure AdminMessage where
  message : String
  user : String
  deriving DecidableEq, Repr

namespace AdminMessage

def reader : Reader AdminMessage := do
  let (message, user, _) ← recordOf <|
    .cons "message" text none <| .cons "user" text none .nil
  pure { message, user }

def document (message : AdminMessage) : Value :=
  .record [("message", .text message.message), ("user", .text message.user)]

end AdminMessage

end Accounts.Wire
