import Accounts.Text.Numerals

/-! Universally unique identifiers and their notations. -/

namespace Accounts

structure Uuid where
  digits : Vector (Fin 16) 32
  deriving DecidableEq

namespace Uuid

def zero : Uuid := ⟨Vector.replicate 32 0⟩

instance : Inhabited Uuid := ⟨zero⟩

def ofDigits? (digits : List (Fin 16)) : Option Uuid :=
  if length : digits.length = 32 then some ⟨⟨digits.toArray, by simp [length]⟩⟩ else none

theorem ofDigits?_toList (id : Uuid) : ofDigits? id.digits.toList = some id := by
  obtain ⟨⟨digits, size⟩⟩ := id
  simp [ofDigits?, size]

def digitsOfBytes (bytes : List UInt8) : List (Fin 16) :=
  bytes.flatMap fun byte => [Fin.ofNat 16 (byte.toNat / 16), Fin.ofNat 16 byte.toNat]

/-- The random identifier made of sixteen bytes: version 4, and the variant in the two high bits of
the seventeenth digit. -/
def ofRandom (bytes : Vector UInt8 16) : Uuid :=
  let digits := digitsOfBytes bytes.toList
  let marked := (digits.set 12 4).set 16 (Fin.ofNat 16 (8 + (digits.getD 16 0).val % 4))
  (ofDigits? marked).getD zero

def groups : List Nat := [8, 4, 4, 4, 12]

def hyphenated : List Nat → List Char → List Char
  | [], _ => []
  | [_], text => text
  | size :: sizes, text => text.take size ++ '-' :: hyphenated sizes (text.drop size)

def unhyphenated? : List Nat → List Char → Option (List Char)
  | [], text => if text = [] then some [] else none
  | [size], text => if text.length = size then some text else none
  | size :: sizes, text =>
    if (text.take size).length = size then
      match text.drop size with
      | '-' :: rest => (unhyphenated? sizes rest).map (text.take size ++ ·)
      | _ => none
    else none

def hexDigits? (text : List Char) : Option (List (Fin 16)) :=
  text.mapM fun c => (Text.hexDigit c).map (Fin.ofNat 16)

def ofPlain? (text : List Char) : Option Uuid := (hexDigits? text).bind ofDigits?

def ofHyphenated? (text : List Char) : Option Uuid := (unhyphenated? groups text).bind ofPlain?

/-- Reads any of the accepted notations: digits alone, digits in hyphenated groups, and those groups
in braces or behind a URN scheme. -/
def parse? (text : String) : Option Uuid :=
  match text.toList with
  | '{' :: rest => if rest.getLast? = some '}' then ofHyphenated? rest.dropLast else none
  | 'u' :: 'r' :: 'n' :: ':' :: 'u' :: 'u' :: 'i' :: 'd' :: ':' :: rest => ofHyphenated? rest
  | 'U' :: 'R' :: 'N' :: ':' :: 'U' :: 'U' :: 'I' :: 'D' :: ':' :: rest => ofHyphenated? rest
  | text => if text.length = 32 then ofPlain? text else ofHyphenated? text

def print (id : Uuid) : List Char :=
  hyphenated groups (id.digits.toList.map fun digit => Nat.digitChar digit.val)

def render (id : Uuid) : String := String.ofList id.print

end Uuid

end Accounts
