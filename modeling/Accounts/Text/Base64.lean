/-! Unpadded base64, of which each byte string has exactly one spelling. -/

namespace Accounts.Text

inductive Alphabet
  | standard
  | url
  deriving DecidableEq, Repr

def Alphabet.digit (alphabet : Alphabet) (value : Nat) : Char :=
  if value < 26 then Char.ofNat (0x41 + value)
  else if value < 52 then Char.ofNat (0x61 + (value - 26))
  else if value < 62 then Char.ofNat (0x30 + (value - 52))
  else match alphabet with
    | .standard => if value = 62 then '+' else '/'
    | .url => if value = 62 then '-' else '_'

def Alphabet.value? (alphabet : Alphabet) (c : Char) : Option Nat :=
  if 'A' ≤ c ∧ c ≤ 'Z' then some (c.toNat - 0x41)
  else if 'a' ≤ c ∧ c ≤ 'z' then some (c.toNat - 0x61 + 26)
  else if '0' ≤ c ∧ c ≤ '9' then some (c.toNat - 0x30 + 52)
  else match alphabet with
    | .standard => if c = '+' then some 62 else if c = '/' then some 63 else none
    | .url => if c = '-' then some 62 else if c = '_' then some 63 else none

def encodeFrom (alphabet : Alphabet) (done : List Char) : List UInt8 → List Char
  | [] => done.reverse
  | [a] =>
    let a := a.toNat
    (alphabet.digit (a % 4 * 16) :: alphabet.digit (a / 4) :: done).reverse
  | [a, b] =>
    let a := a.toNat
    let b := b.toNat
    (alphabet.digit (b % 16 * 4) :: alphabet.digit (a % 4 * 16 + b / 16) ::
      alphabet.digit (a / 4) :: done).reverse
  | a :: b :: c :: rest =>
    let a := a.toNat
    let b := b.toNat
    let c := c.toNat
    encodeFrom alphabet (alphabet.digit (c % 64) :: alphabet.digit (b % 16 * 4 + c / 64) ::
      alphabet.digit (a % 4 * 16 + b / 16) :: alphabet.digit (a / 4) :: done) rest

/-- Reads the rest of some digits behind the bytes already `done`, which are kept in reverse. The
bits that fill up the last digit have to be zero. -/
def decodeFrom (alphabet : Alphabet) (done : List UInt8) : List Char → Option (List UInt8)
  | [] => some done.reverse
  | [_] => none
  | [a, b] =>
    match alphabet.value? a, alphabet.value? b with
    | some a, some b =>
      if b % 16 = 0 then some (UInt8.ofNat (a * 4 + b / 16) :: done).reverse else none
    | _, _ => none
  | [a, b, c] =>
    match alphabet.value? a, alphabet.value? b, alphabet.value? c with
    | some a, some b, some c =>
      if c % 4 = 0 then
        some (UInt8.ofNat (b % 16 * 16 + c / 4) :: UInt8.ofNat (a * 4 + b / 16) :: done).reverse
      else none
    | _, _, _ => none
  | a :: b :: c :: d :: rest =>
    match alphabet.value? a, alphabet.value? b, alphabet.value? c, alphabet.value? d with
    | some a, some b, some c, some d =>
      decodeFrom alphabet (UInt8.ofNat (c % 4 * 64 + d) :: UInt8.ofNat (b % 16 * 16 + c / 4) ::
        UInt8.ofNat (a * 4 + b / 16) :: done) rest
    | _, _, _, _ => none

def base64 (alphabet : Alphabet) (bytes : List UInt8) : String :=
  String.ofList (encodeFrom alphabet [] bytes)

def ofBase64? (alphabet : Alphabet) (text : String) : Option (List UInt8) :=
  decodeFrom alphabet [] text.toList

end Accounts.Text
