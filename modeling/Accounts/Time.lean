import Accounts.Text.Numerals
import Accounts.Text.Scanner

/-! Instants of Coordinated Universal Time, the Gregorian calendar, extended to all years, and the text
form of instants: RFC 3339, with signed years beyond four digits. -/

namespace Accounts.Time

/-- The second at the start of year -262143, counted from the start of 1970. -/
def firstSecond : Int := -8334601228800

/-- The last second of year 262142, counted from the start of 1970. -/
def lastSecond : Int := 8210266876799

/-- An instant: the second counted from the start of 1970, and the nanoseconds since it began. A
leap second lengthens the last second of a minute. -/
structure Instant where
  second : Int
  nano : Nat
  first_le : firstSecond ≤ second
  le_last : second ≤ lastSecond
  nano_lt : nano < 1000000000 ∨ nano < 2000000000 ∧ second % 60 = 59
  deriving DecidableEq

namespace Instant

def of? (second : Int) (nano : Nat) : Option Instant :=
  if range : firstSecond ≤ second ∧ second ≤ lastSecond then
    if nano_lt : nano < 1000000000 ∨ nano < 2000000000 ∧ second % 60 = 59 then
      some ⟨second, nano, range.1, range.2, nano_lt⟩
    else none
  else none

def before (instant other : Instant) : Bool :=
  instant.second < other.second ||
  (instant.second == other.second && instant.nano < other.nano)

def epoch : Instant := ⟨0, 0, by decide, by decide, by decide⟩

instance : Inhabited Instant := ⟨epoch⟩

/-- The instant a positive number of seconds later, if it is in range. An instant within a leap
second counts as the same fraction of the second that it lengthens. -/
def later? (instant : Instant) (seconds : Int) : Option Instant :=
  if instant.nano < 1000000000 then of? (instant.second + seconds) instant.nano
  else of? (instant.second + seconds) (instant.nano - 1000000000)

end Instant

/-! Dates. -/

structure Date where
  year : Int
  month : Nat
  day : Nat
  deriving DecidableEq, Repr

def isLeap (year : Int) : Bool := year % 4 == 0 && (year % 100 != 0 || year % 400 == 0)

def monthLengths (year : Int) : List Nat :=
  [31, if isLeap year then 29 else 28, 31, 30, 31, 30, 31, 31, 30, 31, 30, 31]

def daysBeforeYear (year : Int) : Int :=
  365 * year + (year + 3) / 4 - (year + 99) / 100 + (year + 399) / 400

def epochDays : Int := 719528

def Date.toDays (date : Date) : Int :=
  daysBeforeYear date.year + ((monthLengths date.year).take (date.month - 1)).foldl Nat.add 0 +
    (date.day - 1 : Int) - epochDays

def Date.valid (date : Date) : Bool :=
  1 ≤ date.month && 1 ≤ date.day &&
    match (monthLengths date.year)[date.month - 1]? with
    | none => false
    | some length => date.day ≤ length

/-- The year of the `day`-th day from the start of year 0. The mean length of a year leads to the
year itself or to one beside it. -/
def yearOfDay (day : Int) : Int :=
  let near := day * 400 / 146097
  if daysBeforeYear (near + 1) ≤ day then near + 1
  else if day < daysBeforeYear near then near - 1
  else near

def monthAndDay (month : Nat) (day : Nat) : List Nat → Nat × Nat
  | [] => (month, day + 1)
  | length :: rest =>
    if day < length then (month, day + 1) else monthAndDay (month + 1) (day - length) rest

def Date.ofDays (days : Int) : Date :=
  let day := days + epochDays
  let year := yearOfDay day
  let (month, day) := monthAndDay 1 (day - daysBeforeYear year).toNat (monthLengths year)
  { year, month, day }

/-! Texts. -/

open Text

def printYear (year : Int) : List Char :=
  if 0 ≤ year ∧ year ≤ 9999 then padded 4 year.natAbs
  else (if year < 0 then '-' else '+') :: padded 4 year.natAbs

def printFraction (nano : Nat) : List Char :=
  if nano = 0 then []
  else if nano % 1000000 = 0 then '.' :: padded 3 (nano / 1000000)
  else if nano % 1000 = 0 then '.' :: padded 6 (nano / 1000)
  else '.' :: padded 9 nano

/-- The text of an instant. A leap second is the sixtieth of its minute. -/
def Instant.print (instant : Instant) : List Char :=
  let date := Date.ofDays (instant.second / 86400)
  let time := (instant.second % 86400).toNat
  let leap := instant.nano / 1000000000
  printYear date.year ++ '-' :: padded 2 date.month ++ '-' :: padded 2 date.day ++
    'T' :: padded 2 (time / 3600) ++ ':' :: padded 2 (time / 60 % 60) ++
    ':' :: padded 2 (time % 60 + leap) ++ printFraction (instant.nano % 1000000000) ++ ['Z']

def Instant.render (instant : Instant) : String := String.ofList instant.print

def scanNumber (most : Nat) : Scanner Nat := do
  blanks
  return Nat.ofDigitChars 10 (← digitRun most) 0

def scanField (least greatest : Nat) : Scanner Nat := do
  let value ← scanNumber 2
  if least ≤ value ∧ value ≤ greatest then pure value else failure

def scanYear : Scanner Int := do
  blanks
  match ← get with
  | '-' :: rest => set rest; return -(Nat.ofDigitChars 10 (← digitRun rest.length) 0 : Int)
  | '+' :: rest => set rest; return Nat.ofDigitChars 10 (← digitRun rest.length) 0
  | _ => return Nat.ofDigitChars 10 (← digitRun 4) 0

def scanMark (c : Char) : Scanner Unit := do
  blanks
  exactly c

def scanSeparator : Scanner Unit := fun text =>
  match text with
  | next :: rest => if next = 'T' ∨ next = 't' ∨ next = ' ' then some ((), rest) else none
  | [] => none

def scanNano : Scanner Nat := do
  match ← get with
  | '.' :: rest =>
    set rest
    let digits ← digitRun rest.length
    let counted := digits.take 9
    return Nat.ofDigitChars 10 (counted ++ List.replicate (9 - counted.length) '0') 0
  | _ => return 0

def twoDigits (tens : Char) : Scanner Nat := fun text =>
  match text with
  | a :: b :: rest =>
    if '0' ≤ a ∧ a ≤ tens ∧ b.isDigit then some (Nat.ofDigitChars 10 [a, b] 0, rest) else none
  | _ => none

def scanHoursMinutes : Scanner Nat := do
  let hours ← twoDigits '9'
  modify fun text => text.dropWhile fun c => c = ':' || isBlank c
  let minutes ← twoDigits '5'
  return hours * 60 + minutes

def scanOffset : Scanner Int := do
  blanks
  match ← get with
  | a :: b :: c :: rest =>
    if (a = 'U' ∨ a = 'u') ∧ (b = 'T' ∨ b = 't') ∧ (c = 'C' ∨ c = 'c') then
      set rest
      return 0
    else if a = 'Z' ∨ a = 'z' then
      set (b :: c :: rest)
      return 0
    else if a = '+' then
      set (b :: c :: rest)
      return (← scanHoursMinutes)
    else if a = '-' ∨ a.toNat = 0x2212 then
      set (b :: c :: rest)
      return -(← scanHoursMinutes : Int)
    else failure
  | c :: rest =>
    if c = 'Z' ∨ c = 'z' then
      set rest
      return 0
    else failure
  | [] => failure

/-- Takes an instant. Blanks may stand in front of every number, hyphen and colon of it, and in
front of its offset, which is less than a day. -/
def scanInstant : Scanner Instant := do
  let year ← scanYear
  scanMark '-'
  let month ← scanField 1 12
  scanMark '-'
  let day ← scanField 1 31
  scanSeparator
  let hour ← scanField 0 23
  scanMark ':'
  let minute ← scanField 0 59
  scanMark ':'
  let second ← scanField 0 60
  let nano ← scanNano
  let offset ← scanOffset
  let date : Date := { year, month, day }
  if !date.valid || offset.natAbs ≥ 1440 then failure
  let (second, nano) := if second = 60 then (59, nano + 1000000000) else (second, nano)
  let reading := date.toDays * 86400 + (hour * 3600 + minute * 60 + second : Nat)
  if reading < firstSecond ∨ lastSecond < reading then failure
  match Instant.of? (reading - offset * 60) nano with
  | some instant => pure instant
  | none => failure

def Instant.parse? (text : String) : Option Instant :=
  match scanInstant text.toList with
  | some (instant, rest) => if trimStart rest = [] then some instant else none
  | none => none

end Accounts.Time
