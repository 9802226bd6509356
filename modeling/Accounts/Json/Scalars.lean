import Accounts.Text.Utf8

/-! Readers of JSON text, which stop at the first fault; and reading scalars: numerals, strings, and
whatever of a given type. -/

namespace Accounts.Json

inductive Fault
  /-- The text ends early. -/
  | ended
  /-- The text is not JSON. -/
  | malformed
  /-- The text is JSON so far, and has another shape than asked for. -/
  | mismatched
  deriving DecidableEq, Repr

abbrev Reader (α : Type) := StateT (List UInt8) (Except Fault) α

def isSpace (byte : UInt8) : Bool := byte == 0x20 || byte == 0x0A || byte == 0x0D || byte == 0x09

def afterSpace (text : List UInt8) : List UInt8 := text.dropWhile isSpace

def refuse {α : Type} (fault : Fault) : Reader α := fun _ => .error fault

def word : List UInt8 → Reader Unit
  | [] => pure ()
  | expected :: more => fun text =>
    match text with
    | [] => .error .ended
    | byte :: rest => if byte = expected then word more rest else .error .malformed

def nullTail : List UInt8 := [0x75, 0x6C, 0x6C]

def trueTail : List UInt8 := [0x72, 0x75, 0x65]

def falseTail : List UInt8 := [0x61, 0x6C, 0x73, 0x65]

def mark (expected : UInt8) : Reader Unit := fun text =>
  match afterSpace text with
  | [] => .error .ended
  | byte :: rest => if byte = expected then .ok ((), rest) else .error .malformed

def readAll {α : Type} (reader : Reader α) (text : List UInt8) : Except Fault α :=
  match reader text with
  | .error fault => .error fault
  | .ok (value, rest) => if afterSpace rest = [] then .ok value else .error .malformed

/-! Numerals. -/

def isDigit (byte : UInt8) : Bool := 0x30 ≤ byte && byte ≤ 0x39

def ofDigits (digits : List UInt8) : Nat :=
  digits.foldl (fun number digit => number * 10 + (digit.toNat - 0x30)) 0

structure Numeral where
  negative : Bool
  whole : List UInt8
  fraction : Option (List UInt8)
  exponent : Option (Bool × List UInt8)

def someDigits : Reader (List UInt8) := fun text =>
  match text.span isDigit with
  | ([], []) => .error .ended
  | ([], _) => .error .malformed
  | (digits, rest) => .ok (digits, rest)

def wholeDigits : Reader (List UInt8) := do
  let digits ← someDigits
  match digits with
  | 0x30 :: _ :: _ => refuse .malformed
  | _ => pure digits

def fractionDigits : Reader (Option (List UInt8)) := fun text =>
  match text with
  | 0x2E :: rest => (some <$> someDigits) rest
  | _ => .ok (none, text)

def exponentDigits : Reader (Option (Bool × List UInt8)) := fun text =>
  match text with
  | byte :: rest =>
    if byte = 0x65 ∨ byte = 0x45 then
      match rest with
      | 0x2B :: rest => ((fun digits => some (false, digits)) <$> someDigits) rest
      | 0x2D :: rest => ((fun digits => some (true, digits)) <$> someDigits) rest
      | _ => ((fun digits => some (false, digits)) <$> someDigits) rest
    else .ok (none, text)
  | [] => .ok (none, text)

def minusSign : Reader Bool := fun text =>
  match text with
  | 0x2D :: rest => .ok (true, rest)
  | _ => .ok (false, text)

def numeral : Reader Numeral := do
  let negative ← minusSign
  let whole ← wholeDigits
  let fraction ← fractionDigits
  let exponent ← exponentDigits
  pure { negative, whole, fraction, exponent }

/-- Appends digits to a number as long as it fits into 64 bits. Tells how many were appended beside
those counted already. -/
def appendDigits (number count : Nat) : List UInt8 → Nat × Nat
  | [] => (number, count)
  | digit :: rest =>
    let longer := number * 10 + (digit.toNat - 0x30)
    if longer ≤ 0xFFFFFFFFFFFFFFFF then appendDigits longer (count + 1) rest else (number, count)

/-- The digits of a numeral that count, as a number, and the power of ten that goes with it before
the exponent. Digits before the point that no longer count raise the power; those behind it that do
lower it. -/
def Numeral.significand (n : Numeral) : Nat × Int :=
  let (number, whole) := appendDigits 0 0 n.whole
  let (number, places) := appendDigits number 0 (n.fraction.getD [])
  (number, (n.whole.length - whole : Int) - places)

def exponentLimit : Nat := 0x7FFFFFFF

def exponentSize (digits : List UInt8) : Nat :=
  digits.foldl
    (fun size digit =>
      if exponentLimit < size then size else size * 10 + (digit.toNat - 0x30))
    0

def Numeral.power (n : Numeral) : Int :=
  match n.exponent with
  | none => 0
  | some (negative, digits) =>
    if negative then -(exponentSize digits : Int) else exponentSize digits

def powerOfTen (power : Nat) : Float := Float.ofScientific 1 false power

def greatestPower : Nat := 308

/-- A number of 64 bits times a power of ten, rounded after each multiplication or division; none if
it is beyond the finite doubles. Nothing is left of a number that is divided by more than the
greatest power twice. -/
def scaled (number : Float) (power : Int) : Option Float :=
  if power < -(2 * greatestPower : Int) then some 0
  else if power < -(greatestPower : Int) then
    some (number / powerOfTen greatestPower / powerOfTen (-power - greatestPower).toNat)
  else if power ≤ 0 then some (number / powerOfTen (-power).toNat)
  else if power ≤ greatestPower then
    let product := number * powerOfTen power.toNat
    if product.isInf then none else some product
  else if number == 0 then some number
  else none

def Numeral.double? (n : Numeral) : Option Float :=
  let (number, power) := n.significand
  let size := scaled (UInt64.ofNat number).toFloat (power + n.power)
  size.map fun size => if n.negative then -size else size

def Numeral.finite (n : Numeral) : Bool := n.double?.isSome

/-- The digits of an exponent that are left where it is found to be too large, one digit at a time;
`size` has been read. -/
def digitsBeyond (size : Nat) : List UInt8 → List UInt8
  | [] => []
  | digit :: rest =>
    let size := size * 10 + (digit.toNat - 0x30)
    if exponentLimit < size then rest else digitsBeyond size rest

def Numeral.unread (n : Numeral) : List UInt8 :=
  match n.exponent with
  | some (false, digits) => digitsBeyond 0 digits
  | _ => []

/-- The integer that a numeral writes without a point or an exponent, if it has 64 bits with or
without a sign; minus zero is none. -/
def Numeral.wholeNumber? (n : Numeral) : Option Int :=
  match n.fraction, n.exponent with
  | none, none =>
    if n.whole.length > 20 then none
    else
      let size := ofDigits n.whole
      if n.negative then
        if 0 < size ∧ size ≤ 0x8000000000000000 then some (-(size : Int)) else none
      else if size ≤ 0xFFFFFFFFFFFFFFFF then some size else none
  | _, _ => none

def Numeral.integer? (n : Numeral) : Option Int :=
  n.wholeNumber?.filter fun value => value < 0x8000000000000000

/-! Strings. -/

inductive StringMode
  /-- Between characters. -/
  | plain
  /-- Behind a backslash. -/
  | escape
  /-- Within the four digits of a code. -/
  | code (digits : List UInt8)
  /-- Behind the code of a leading surrogate, with another escape to come. -/
  | paired (lead : Nat)
  /-- Behind the backslash of that escape. -/
  | pairedEscape (lead : Nat)
  /-- Within the four digits of a trailing surrogate. -/
  | pairedCode (lead : Nat) (digits : List UInt8)

def hexByte (byte : UInt8) : Option Nat :=
  if 0x30 ≤ byte ∧ byte ≤ 0x39 then some (byte.toNat - 0x30)
  else if 0x61 ≤ byte ∧ byte ≤ 0x66 then some (byte.toNat - 0x57)
  else if 0x41 ≤ byte ∧ byte ≤ 0x46 then some (byte.toNat - 0x37)
  else none

def hexNumber : List UInt8 → Option Nat
  | [] => some 0
  | byte :: rest =>
    match hexByte byte, hexNumber rest with
    | some digit, some number => some (number * 16 + digit)
    | _, _ => none

def escapedByte (letter : UInt8) : Option UInt8 :=
  if letter = 0x22 ∨ letter = 0x5C ∨ letter = 0x2F then some letter
  else if letter = 0x62 then some 0x08
  else if letter = 0x66 then some 0x0C
  else if letter = 0x6E then some 0x0A
  else if letter = 0x72 then some 0x0D
  else if letter = 0x74 then some 0x09
  else none

def codeBytes (code : Nat) : List UInt8 := String.utf8EncodeChar (Char.ofNat code)

/-- What one byte of a string adds to its text, and where the reading stands after it. The digits
of a code are kept in reverse and looked at once there are four. -/
def StringMode.step (mode : StringMode) (byte : UInt8) :
    Except Fault (List UInt8 × StringMode) :=
  match mode with
  | .plain =>
    if byte = 0x5C then .ok ([], .escape)
    else if byte < 0x20 then .error .malformed
    else .ok ([byte], .plain)
  | .escape =>
    if byte = 0x75 then .ok ([], .code [])
    else (escapedByte byte).elim (.error .malformed) fun byte => .ok ([byte], .plain)
  | .code digits =>
    if digits.length < 3 then .ok ([], .code (byte :: digits))
    else (hexNumber (byte :: digits)).elim (.error .malformed) fun code =>
      if 0xDC00 ≤ code ∧ code ≤ 0xDFFF then .error .malformed
      else if 0xD800 ≤ code ∧ code ≤ 0xDBFF then .ok ([], .paired code)
      else .ok (codeBytes code, .plain)
  | .paired lead => if byte = 0x5C then .ok ([], .pairedEscape lead) else .error .malformed
  | .pairedEscape lead => if byte = 0x75 then .ok ([], .pairedCode lead []) else .error .malformed
  | .pairedCode lead digits =>
    if digits.length < 3 then .ok ([], .pairedCode lead (byte :: digits))
    else (hexNumber (byte :: digits)).elim (.error .malformed) fun code =>
      if 0xDC00 ≤ code ∧ code ≤ 0xDFFF then
        .ok (codeBytes ((lead - 0xD800) * 0x400 + (code - 0xDC00) + 0x10000), .plain)
      else .error .malformed

def stringFrom (done : List UInt8) (mode : StringMode) :
    List UInt8 → Except Fault (List UInt8 × List UInt8)
  | [] => .error .ended
  | byte :: rest =>
    match mode, decide (byte = 0x22) with
    | .plain, true => .ok (done.reverse, rest)
    | mode, _ =>
      match mode.step byte with
      | .error fault => .error fault
      | .ok (more, mode) => stringFrom (more.reverse ++ done) mode rest

def stringTail : Reader String := fun text =>
  match stringFrom [] .plain text with
  | .error fault => .error fault
  | .ok (bytes, rest) =>
    match Text.ofUtf8? bytes with
    | none => .error .malformed
    | some value => .ok (value, rest)

inductive PassMode
  | plain
  | escape
  | code (digits : List UInt8)

def PassMode.step (mode : PassMode) (byte : UInt8) : Except Fault PassMode :=
  match mode with
  | .plain =>
    if byte = 0x5C then .ok .escape
    else if byte < 0x20 then .error .malformed
    else .ok .plain
  | .escape =>
    if byte = 0x75 then .ok (.code [])
    else if (escapedByte byte).isSome then .ok .plain
    else .error .malformed
  | .code digits =>
    if digits.length < 3 then .ok (.code (byte :: digits))
    else if (hexNumber (byte :: digits)).isSome then .ok .plain
    else .error .malformed

def passString (mode : PassMode) : List UInt8 → Except Fault (List UInt8)
  | [] => .error .ended
  | byte :: rest =>
    match mode, decide (byte = 0x22) with
    | .plain, true => .ok rest
    | mode, _ =>
      match mode.step byte with
      | .error fault => .error fault
      | .ok mode => passString mode rest

/-! Scalars of a given type. -/

def startsNumeral (byte : UInt8) : Bool := byte == 0x2D || isDigit byte

def finiteNumeral : Reader Numeral := do
  let n ← numeral
  if n.finite then pure n else refuse .malformed

/-- Refuses a value for its type. A scalar is read to its end first, so that it is refused as
malformed when it is; a list or a record is refused where it opens. -/
def otherType {α : Type} : Reader α := fun text =>
  match afterSpace text with
  | [] => .error .ended
  | byte :: rest =>
    if byte = 0x6E then (word nullTail *> refuse .mismatched) rest
    else if byte = 0x74 then (word trueTail *> refuse .mismatched) rest
    else if byte = 0x66 then (word falseTail *> refuse .mismatched) rest
    else if startsNumeral byte then (finiteNumeral *> refuse .mismatched) (byte :: rest)
    else if byte = 0x22 then (stringTail *> refuse .mismatched) rest
    else if byte = 0x5B ∨ byte = 0x7B then .error .mismatched
    else .error .malformed

def text : Reader String := fun input =>
  match afterSpace input with
  | 0x22 :: rest => stringTail rest
  | rest => otherType rest

def textAs {α : Type} (parse : String → Option α) : Reader α := do
  let spelling ← text
  match parse spelling with
  | some value => pure value
  | none => refuse .mismatched

def integer : Reader Int := fun input =>
  match afterSpace input with
  | [] => .error .ended
  | byte :: rest =>
    if startsNumeral byte then
      match finiteNumeral (byte :: rest) with
      | .error fault => .error fault
      | .ok (n, rest) =>
        match n.integer? with
        | some value => .ok (value, rest)
        | none => .error .mismatched
    else otherType (byte :: rest)

def optional {α : Type} (reader : Reader α) : Reader (Option α) := fun input =>
  match afterSpace input with
  | 0x6E :: rest => (word nullTail *> pure none) rest
  | rest => (some <$> reader) rest

end Accounts.Json
