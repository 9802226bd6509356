import Accounts.Text.Scanner
import Accounts.Text.Quoted
import Accounts.Text.Utf8

/-! Environment variables, whose values are bytes. -/

namespace Accounts.Settings

structure Environment where
  entries : List (String × List UInt8)
  deriving DecidableEq, Repr

inductive VariableFault
  | notPresent
  | notUnicode (bytes : List UInt8)
  deriving DecidableEq, Repr

namespace Environment

def bytes? (environment : Environment) (name : String) : Option (List UInt8) :=
  (environment.entries.find? fun entry => entry.1 = name).map Prod.snd

def read (environment : Environment) (name : String) : Except VariableFault String :=
  match environment.bytes? name with
  | none => .error .notPresent
  | some bytes =>
    match Text.ofUtf8? bytes with
    | none => .error (.notUnicode bytes)
    | some text => .ok text

/-- The text of a variable, unless it is blank. A blank variable, one that is no text and an unset
one are alike. -/
def optional (environment : Environment) (name : String) : Option String :=
  match environment.read name with
  | .error _ => none
  | .ok text => if Text.blank text then none else some text

def set (environment : Environment) (name value : String) : Environment :=
  ⟨(name, Text.utf8 value) :: environment.entries⟩

end Environment

def pieces : Nat → List UInt8 → List (Char ⊕ UInt8)
  | 0, _ => []
  | _ + 1, [] => []
  | fuel + 1, byte :: rest =>
    let spelled := [1, 2, 3, 4].findSome? fun length =>
      match (Text.ofUtf8? ((byte :: rest).take length)).map String.toList with
      | some [c] => some (c, length)
      | _ => none
    match spelled with
    | some (c, length) => .inl c :: pieces fuel ((byte :: rest).drop length)
    | none => .inr byte :: pieces fuel rest

def quotedPiece : Char ⊕ UInt8 → List Char
  | .inl c => Text.quotedChar c
  | .inr byte =>
    let digit (n : Nat) : Char :=
      if n < 10 then Char.ofNat (0x30 + n) else Char.ofNat (0x37 + n)
    ['\\', 'x', digit (byte.toNat / 16), digit (byte.toNat % 16)]

def quotedBytes (bytes : List UInt8) : String :=
  String.ofList ('"' :: (pieces bytes.length bytes).flatMap quotedPiece ++ ['"'])

def VariableFault.message : VariableFault → String
  | .notPresent => "environment variable not found"
  | .notUnicode bytes => "environment variable was not valid unicode: " ++ quotedBytes bytes

end Accounts.Settings
