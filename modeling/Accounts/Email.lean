import Accounts.Json.Value
import Accounts.Text.Scanner
import Accounts.Text.LetterCase

/-! Email addresses. -/

namespace Accounts

/-- An email address. Addresses that come from input are validated and normalized; stored ones are
taken as they are. -/
structure Email where
  text : String
  deriving DecidableEq, Repr

inductive EmailError
  | empty
  | tooLong
  | invalidFormat
  deriving DecidableEq, Repr

def EmailError.message : EmailError → String
  | .empty => "email cannot be empty"
  | .tooLong => "email must be at most 254 characters"
  | .invalidFormat => "invalid email format"

namespace Email

def maxLength : Nat := 254

def maxLocalLength : Nat := 64

/-- The form in which addresses are stored and looked up: trimmed, in lowercase. -/
def normalize (text : String) : String := Text.lowercase (Text.trim text)

def isDomainChar (c : Char) : Bool :=
  ('a' ≤ c && c ≤ 'z') || ('A' ≤ c && c ≤ 'Z') || ('0' ≤ c && c ≤ '9') || c == '.' || c == '-'

def doubleDot : List Char → Bool
  | '.' :: '.' :: _ => true
  | _ :: rest => doubleDot rest
  | [] => false

def isInnerChar (c : Char) : Bool := c == '.' || c == '-'

def isLocal (text : List Char) : Bool :=
  !text.isEmpty && (String.ofList text).utf8ByteSize ≤ maxLocalLength &&
  !text.any Text.isBlank

def isDomain (text : List Char) : Bool :=
  text.contains '.' && !doubleDot text && text.all isDomainChar &&
  !(text.head?.any isInnerChar || text.getLast?.any isInnerChar)

def isAddress (text : List Char) : Bool :=
  match text.span (· ≠ '@') with
  | (before, _ :: behind) => isLocal before && isDomain behind
  | (_, []) => false

def of (text : String) : Except EmailError Email :=
  let text := normalize text
  if text = "" then .error .empty
  else if text.utf8ByteSize > maxLength then .error .tooLong
  else if isAddress text.toList then .ok ⟨text⟩
  else .error .invalidFormat

/-- The address that a JSON value is; any text is one. -/
def ofJson (value : Json.Value) : Except String Email := Email.mk <$> value.asText

end Email

end Accounts
