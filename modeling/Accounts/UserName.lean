import Accounts.Json.Value
import Accounts.Text.Scanner
import Accounts.Text.Quoted

/-! User names. -/

namespace Accounts

/-- A user name. Names that come from input are validated; stored ones are taken as they are. -/
structure UserName where
  text : String
  deriving DecidableEq, Repr

inductive UserNameError
  | tooShort (length : Nat)
  | tooLong (length : Nat)
  | containsWhitespace
  | invalidCharacter (position : Nat)
  deriving DecidableEq, Repr

namespace UserName

def minLength : Nat := 3

def maxLength : Nat := 50

end UserName

def UserNameError.message : UserNameError → String
  | .tooShort length =>
    s!"username is too short ({length} chars, minimum {UserName.minLength})"
  | .tooLong length => s!"username is too long ({length} chars, maximum {UserName.maxLength})"
  | .containsWhitespace => "username cannot contain whitespace"
  | .invalidCharacter position =>
    s!"username contains an invalid character at position {position}"

namespace UserName

def offence? (position : Nat) : List Char → Option UserNameError
  | [] => none
  | c :: rest =>
    if Text.isBlank c then some .containsWhitespace
    else if Text.isControl c then some (.invalidCharacter position)
    else offence? (position + 1) rest

def of (text : String) : Except UserNameError UserName :=
  let length := text.length
  if length < minLength then .error (.tooShort length)
  else if length > maxLength then .error (.tooLong length)
  else match offence? 0 text.toList with
    | some error => .error error
    | none => .ok ⟨text⟩

def ofJson (value : Json.Value) : Except String UserName := do
  let text ← value.asText
  (of text).mapError UserNameError.message

def inspect (name : UserName) : String := "UserName(" ++ Text.quoted name.text ++ ")"

end UserName

end Accounts
