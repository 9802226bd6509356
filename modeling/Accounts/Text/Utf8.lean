import Accounts.Text.Numerals

/-! Texts as UTF-8 bytes, what is wrong with bytes that are no text, and bytes that are spelled by a
percent sign and two digits. -/

namespace Accounts.Text

def utf8 (text : String) : List UInt8 := text.toUTF8.data.toList

def ofUtf8? (bytes : List UInt8) : Option String := String.fromUTF8? ⟨bytes.toArray⟩

theorem ofUtf8?_utf8 (text : String) : ofUtf8? (utf8 text) = some text := by
  have valid : ByteArray.IsValidUTF8 { data := text.toByteArray.data } := text.isValidUTF8
  simp [ofUtf8?, utf8, String.fromUTF8?, String.fromUTF8, valid]

inductive Utf8Start
  | character (length : Nat)
  | bad (length : Nat)
  | cut
  deriving DecidableEq, Repr

def isContinuation (byte : UInt8) : Bool := 0x80 ≤ byte && byte ≤ 0xBF

/-- Whether a byte may come second behind the first byte of a character of three or four bytes.
Spellings that are too long, surrogates and codes that are too large are ruled out here. -/
def isSecond (first byte : UInt8) : Bool :=
  if first = 0xE0 then 0xA0 ≤ byte && byte ≤ 0xBF
  else if first = 0xED then 0x80 ≤ byte && byte ≤ 0x9F
  else if first = 0xF0 then 0x90 ≤ byte && byte ≤ 0xBF
  else if first = 0xF4 then 0x80 ≤ byte && byte ≤ 0x8F
  else isContinuation byte

def lengthOfFirst? (first : UInt8) : Option Nat :=
  if first < 0x80 then some 1
  else if first < 0xC2 then none
  else if first < 0xE0 then some 2
  else if first < 0xF0 then some 3
  else if first < 0xF5 then some 4
  else none

def utf8StartFrom (length seen : Nat) : List UInt8 → Utf8Start
  | [] => if seen = length then .character length else .cut
  | byte :: rest =>
    if seen = length then .character length
    else if isContinuation byte then utf8StartFrom length (seen + 1) rest
    else .bad seen

def utf8Start : List UInt8 → Utf8Start
  | [] => .cut
  | [first] =>
    match lengthOfFirst? first with
    | some 1 => .character 1
    | some _ => .cut
    | none => .bad 1
  | first :: second :: rest =>
    match lengthOfFirst? first with
    | none => .bad 1
    | some length =>
      if length = 1 then .character 1
      else if isSecond first second then utf8StartFrom length 2 rest
      else .bad 1

structure Utf8Fault where
  place : Nat
  length : Option Nat
  deriving DecidableEq, Repr

def Utf8Fault.message (fault : Utf8Fault) : String :=
  match fault.length with
  | none => "incomplete utf-8 byte sequence from index " ++ String.ofList (decimal fault.place)
  | some length =>
    "invalid utf-8 sequence of " ++ String.ofList (decimal length) ++ " bytes from index " ++
      String.ofList (decimal fault.place)

def utf8FaultFrom (place skip : Nat) : List UInt8 → Option Utf8Fault
  | [] => none
  | byte :: rest =>
    match skip with
    | skip + 1 => utf8FaultFrom (place + 1) skip rest
    | 0 =>
      match utf8Start (byte :: rest) with
      | .character length => utf8FaultFrom (place + 1) (length - 1) rest
      | .bad length => some ⟨place, some length⟩
      | .cut => some ⟨place, none⟩

def ofUtf8 (bytes : List UInt8) : Except Utf8Fault String :=
  match ofUtf8? bytes with
  | some text => .ok text
  | none => .error ((utf8FaultFrom 0 0 bytes).getD ⟨0, none⟩)

def replacement : List UInt8 := [0xEF, 0xBF, 0xBD]

/-- Bytes with the replacement for each run of them that begins no character; the first `skip` of
them belong to what came before and are kept if `keep` says so. -/
def mendedFrom (keep : Bool) (skip : Nat) : List UInt8 → List UInt8
  | [] => []
  | byte :: rest =>
    match skip with
    | skip + 1 => (if keep then [byte] else []) ++ mendedFrom keep skip rest
    | 0 =>
      match utf8Start (byte :: rest) with
      | .character length => byte :: mendedFrom true (length - 1) rest
      | .bad length => replacement ++ mendedFrom false (length - 1) rest
      | .cut => replacement

def ofUtf8Mended (bytes : List UInt8) : String := (ofUtf8? (mendedFrom true 0 bytes)).getD ""

/-! Percent signs. -/

def percentDecoded : List UInt8 → List UInt8
  | 0x25 :: high :: low :: rest =>
    match hexDigit (Char.ofNat high.toNat), hexDigit (Char.ofNat low.toNat) with
    | some high, some low => UInt8.ofNat (high * 16 + low) :: percentDecoded rest
    | _, _ => 0x25 :: percentDecoded (high :: low :: rest)
  | byte :: rest => byte :: percentDecoded rest
  | [] => []

def percentBytes (text : List Char) : List UInt8 := percentDecoded (utf8 (String.ofList text))

/-- Cuts a form into the names and values of its fields. A plus sign spells a space, and a field
without an equals sign has an empty value. -/
def formFields (form : List Char) : List (String × String) :=
  let plain (part : List Char) : String :=
    ofUtf8Mended (percentBytes (part.map fun c => if c = '+' then ' ' else c))
  ((form.splitOn '&').filter (· ≠ [])).map fun field =>
    let (name, rest) := field.span (· ≠ '=')
    (plain name, plain (rest.drop 1))

end Accounts.Text
