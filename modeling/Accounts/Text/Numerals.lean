/-! Decimal and hexadecimal numerals, and reading integers that have to fit into a number of bits. -/

namespace Accounts.Text

def decimal (n : Nat) : List Char := Nat.toDigits 10 n

def readDecimal (digits : List Char) : Option Nat :=
  if digits ≠ [] ∧ digits.all Char.isDigit then some (Nat.ofDigitChars 10 digits 0) else none

theorem readDecimal_decimal (n : Nat) : readDecimal (decimal n) = some n := by
  have digits : ∀ c ∈ decimal n, c.isDigit = true := fun c member =>
    Nat.isDigit_of_mem_toDigits (by decide) (by decide) member
  have nonempty : decimal n ≠ [] := Nat.toDigits_ne_nil
  rw [readDecimal, if_pos ⟨nonempty, by simpa using digits⟩, decimal,
    Nat.ofDigitChars_toDigits (by decide) (by decide)]

def padded (width n : Nat) : List Char :=
  List.replicate (width - (decimal n).length) '0' ++ decimal n

def signedDecimal (n : Int) : List Char :=
  if n < 0 then '-' :: decimal n.natAbs else decimal n.natAbs

def hexDigit (c : Char) : Option Nat :=
  if '0' ≤ c ∧ c ≤ '9' then some (c.toNat - 0x30)
  else if 'a' ≤ c ∧ c ≤ 'f' then some (c.toNat - 0x57)
  else if 'A' ≤ c ∧ c ≤ 'F' then some (c.toNat - 0x37)
  else none

/-! Integers of a given size. -/

inductive IntegerFault
  | empty
  | invalidDigit
  | tooLarge
  | tooSmall
  deriving DecidableEq, Repr

def IntegerFault.message : IntegerFault → String
  | .empty => "cannot parse integer from empty string"
  | .invalidDigit => "invalid digit found in string"
  | .tooLarge => "number too large to fit in target type"
  | .tooSmall => "number too small to fit in target type"

def readDigits (greatest : Nat) (beyond : IntegerFault) (sofar : Nat) :
    List Char → Except IntegerFault Nat
  | [] => .ok sofar
  | c :: rest =>
    if c.isDigit then
      let value := sofar * 10 + (c.toNat - 0x30)
      if value ≤ greatest then readDigits greatest beyond value rest else .error beyond
    else .error .invalidDigit

def readSomeDigits (greatest : Nat) (beyond : IntegerFault) (digits : List Char) :
    Except IntegerFault Nat :=
  if digits = [] then .error .invalidDigit else readDigits greatest beyond 0 digits

def readUnsigned (greatest : Nat) (text : String) : Except IntegerFault Nat :=
  match text.toList with
  | [] => .error .empty
  | '+' :: digits => readSomeDigits greatest .tooLarge digits
  | digits => readSomeDigits greatest .tooLarge digits

def readSigned (text : String) : Except IntegerFault Int :=
  match text.toList with
  | [] => .error .empty
  | '-' :: digits => (readSomeDigits 0x8000000000000000 .tooSmall digits).map fun n => -(n : Int)
  | '+' :: digits => (readSomeDigits 0x7FFFFFFFFFFFFFFF .tooLarge digits).map Int.ofNat
  | digits => (readSomeDigits 0x7FFFFFFFFFFFFFFF .tooLarge digits).map Int.ofNat

end Accounts.Text
