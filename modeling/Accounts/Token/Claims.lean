import Accounts.Json.Attempts
import Accounts.Json.Records

/-! What a session token says, and what is checked of it beside that. -/

namespace Accounts.Token

open Json

structure Claims where
  userId : String
  username : String
  role : String
  /-- The second at which the token was issued. -/
  iat : Int
  /-- The last second at which the token is good. -/
  exp : Int
  deriving DecidableEq, Repr

namespace Claims

def members : Members [String, String, String, Int, Int] :=
  .cons "user_id" text none <| .cons "username" text none <| .cons "role" text none <|
  .cons "iat" integer none <| .cons "exp" integer none .nil

def reader : Reader Claims := do
  let (userId, username, role, iat, exp, _) ← recordOf members
  pure { userId, username, role, iat, exp }

def document (claims : Claims) : Value :=
  .record [
    ("user_id", .text claims.userId), ("username", .text claims.username),
    ("role", .text claims.role), ("iat", .integer claims.iat), ("exp", .integer claims.exp)]

end Claims

/-- Passes over a number that may be anything else as well; what is in a list or a record is not
passed over. -/
def passNumber : Reader Unit := fun text =>
  match afterSpace text with
  | 0x5B :: rest => .ok ((), afterFaultyItem rest)
  | 0x7B :: rest => .ok ((), afterFaultyMember rest)
  | rest => .ok ((), (attemptValue 0 rest).2)

def passText : Reader Unit := fun text => .ok ((), (attemptValue 0 text).2)

def payloadDepth : Nat := 126

def passTexts : Reader Unit := fun text => .ok ((), (attemptValue payloadDepth text).2)

def namesAudience : Value → Bool
  | .text _ => true
  | .list items => items.all fun item => match item with | .text _ => true | _ => false
  | _ => false

def audience : Reader Bool := do
  let value ← attempted (attemptValue payloadDepth)
  return value.any namesAudience

def sharedMembers : Members [Unit, Unit, Unit, Unit, Bool] :=
  .cons "exp" passNumber none <| .cons "nbf" passNumber (some ()) <|
  .cons "sub" passText (some ()) <| .cons "iss" passTexts (some ()) <|
  .cons "aud" audience (some false) .nil

def namedAudience : Reader Bool := fun input =>
  match afterSpace input with
  | 0x7B :: rest =>
    (do
      let (_, _, _, _, named, _) ←
        sharedMembers.entriesFrom true sharedMembers.empty (rest.length + 1)
      pure named) rest
  | _ => .error .mismatched

end Accounts.Token
