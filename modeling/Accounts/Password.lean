import Accounts.Text.Base64
import Accounts.Text.Numerals

/-! Passwords in clear and which of them can be hashed, and hashes as text: an algorithm, a version,
parameters, a salt and a hash behind dollar signs, where whatever is missing is missing from the
end. -/

namespace Accounts.Password

def maxLength : Nat := 128

inductive PolicyError
  | empty
  | tooLong (length : Nat)
  deriving DecidableEq, Repr

def PolicyError.message : PolicyError → String
  | .empty => "password must not be empty"
  | .tooLong length => s!"password must be at most {maxLength} characters (got {length})"

structure ClearText where
  text : String
  nonempty : text ≠ ""
  short : text.length ≤ maxLength

def ClearText.of (text : String) : Except PolicyError ClearText :=
  if empty : text = "" then .error .empty
  else if short : text.length ≤ maxLength then .ok ⟨text, empty, short⟩
  else .error (.tooLong text.length)

/-! Hashes. -/

inductive HashError
  | invalidCost (reason : String)
  | hashingFailed (reason : String)
  | invalidFormat
  deriving DecidableEq, Repr

def HashError.message : HashError → String
  | .invalidCost reason => "invalid hashing parameters: " ++ reason
  | .hashingFailed reason => "password hashing failed: " ++ reason
  | .invalidFormat => "invalid password hash format"

structure Phc where
  algorithm : String
  version : Option Nat
  parameters : List (String × String)
  salt : Option String
  hash : Option (List UInt8)
  deriving DecidableEq, Repr

namespace Phc

def cut (mark : Char) (text : List Char) : List (List Char) := text.splitOn mark

def isNameChar (c : Char) : Bool := ('a' ≤ c && c ≤ 'z') || ('0' ≤ c && c ≤ '9') || c == '-'

def isValueChar (c : Char) : Bool :=
  ('A' ≤ c && c ≤ 'Z') || ('a' ≤ c && c ≤ 'z') || ('0' ≤ c && c ≤ '9') ||
  c == '/' || c == '+' || c == '.' || c == '-'

def name? (text : List Char) : Option String :=
  if text ≠ [] ∧ text.length ≤ 32 ∧ text.all isNameChar then some (String.ofList text) else none

def value? (text : List Char) : Option String :=
  if text.length ≤ 64 ∧ text.all isValueChar then some (String.ofList text) else none

def salt? (text : List Char) : Option String :=
  if 4 ≤ text.length then value? text else none

def number? (text : List Char) : Option Nat :=
  match text with
  | '0' :: _ :: _ => none
  | _ => (Text.readDecimal text).bind fun n => if n ≤ 0xFFFFFFFF then some n else none

def parameter? (text : List Char) : Option (String × String) :=
  match cut '=' text with
  | [name, value] =>
    match name? name, value? value with
    | some name, some value => some (name, value)
    | _, _ => none
  | _ => none

def parameters? (text : List Char) : Option (List (String × String)) :=
  if text.length ≤ 127 then (cut ',' text).mapM parameter? else none

def hash? (text : List Char) : Option (List UInt8) :=
  (Text.decodeFrom .standard [] text).bind fun bytes =>
    if 10 ≤ bytes.length ∧ bytes.length ≤ 64 then some bytes else none

def takeVersion (fields : List (List Char)) : Option (Option Nat × List (List Char)) :=
  match fields with
  | ('v' :: '=' :: digits) :: rest =>
    if digits.contains ',' then some (none, fields)
    else (number? digits).map fun version => (some version, rest)
  | _ => some (none, fields)

def takeParameters (fields : List (List Char)) :
    Option (List (String × String) × List (List Char)) :=
  match fields with
  | field :: rest =>
    if field.contains '=' then (parameters? field).map fun parameters => (parameters, rest)
    else some ([], fields)
  | [] => some ([], [])

def parse? (text : String) : Option Phc :=
  match cut '$' text.toList with
  | [] :: algorithm :: fields => do
    let algorithm ← name? algorithm
    let (version, fields) ← takeVersion fields
    let (parameters, fields) ← takeParameters fields
    match fields with
    | [] => some { algorithm, version, parameters, salt := none, hash := none }
    | [salt] =>
      let salt ← salt? salt
      some { algorithm, version, parameters, salt := some salt, hash := none }
    | [salt, hash] =>
      let salt ← salt? salt
      let hash ← hash? hash
      some { algorithm, version, parameters, salt := some salt, hash := some hash }
    | _ => none
  | _ => none

def printParameter (parameter : String × String) : String := parameter.1 ++ "=" ++ parameter.2

def render (phc : Phc) : String :=
  "$" ++ phc.algorithm ++
  (match phc.version with
    | none => ""
    | some version => "$v=" ++ String.ofList (Text.decimal version)) ++
  (match phc.parameters with
    | [] => ""
    | parameters => "$" ++ ",".intercalate (parameters.map printParameter)) ++
  (match phc.salt with | none => "" | some salt => "$" ++ salt) ++
  (match phc.hash with | none => "" | some hash => "$" ++ Text.base64 .standard hash)

end Phc

structure Hashed where
  phc : String
  deriving DecidableEq, Repr

def Hashed.of (text : String) : Except HashError Hashed :=
  match Phc.parse? text with
  | some _ => .ok ⟨text⟩
  | none => .error .invalidFormat

end Accounts.Password
