import Accounts.Net.DomainCharacter
import Accounts.Text.Utf8

/-! Domain names, whose labels may be spelled in ASCII by what they differ in from it. -/

namespace Accounts.Net

def labelDigit? (c : Char) : Option Nat :=
  if 'a' ≤ c ∧ c ≤ 'z' then some (c.toNat - 0x61)
  else if 'A' ≤ c ∧ c ≤ 'Z' then some (c.toNat - 0x41)
  else if '0' ≤ c ∧ c ≤ '9' then some (c.toNat - 0x30 + 26)
  else none

def leastOpenDigit (place bias : Nat) : Nat := min 26 (max 1 (place - bias))

def greatestNumber : Nat := 0xFFFFFFFF

def takeNumber? (bias : Nat) : Nat → Nat → Nat → List Char → Option (Nat × List Char)
  | _, _, _, [] => none
  | place, weight, sum, c :: rest => do
    let digit ← labelDigit? c
    let sum := sum + digit * weight
    if greatestNumber < sum then failure
    let least := leastOpenDigit place bias
    if digit < least then return (sum, rest)
    else
      let weight := weight * (36 - least)
      if greatestNumber < weight then failure
      takeNumber? bias (place + 36) weight sum rest

def damped (number count : Nat) : Nat × Nat :=
  if 455 < number then damped (number / 35) (count + 36) else (number, count)
termination_by number

def biasAfter (number count : Nat) (first : Bool) : Nat :=
  let start := if first then number / 700 else number / 2
  let (rest, sum) := damped (start + start / count) 0
  sum + 36 * rest / (rest + 38)

/-- Puts characters into `done` as the numbers of a label tell: each number is how far the next
character is from the last one, going through all places of a text for one character after the
other. -/
def insertFrom (fuel bias point place : Nat) (done : List Char) (label : List Char) :
    Option (List Char) :=
  match fuel, label with
  | 0, _ => none
  | _ + 1, [] => some done
  | fuel + 1, label => do
    let (sum, rest) ← takeNumber? bias 36 1 place label
    let count := done.length + 1
    let point := point + sum / count
    if 0x10FFFF < point ∨ 0xD800 ≤ point ∧ point ≤ 0xDFFF then failure
    insertFrom fuel (biasAfter (sum - place) count (place = 0)) point (sum % count + 1)
      (done.insertIdx (sum % count) (Char.ofNat point)) rest

/-- The text of a label that is spelled in ASCII: what stands before its last hyphen, with
characters put into it. -/
def decodeLabel? (label : List Char) : Option (List Char) :=
  match label.reverse.span (· ≠ '-') with
  | (tail, _ :: c :: head) =>
    insertFrom (tail.length + 1) 72 128 0 (c :: head).reverse tail.reverse
  | _ => insertFrom (label.length + 1) 72 128 0 [] label

def isSpelledLabel (text : List Char) : Bool :=
  text.any (fun c => 0x80 ≤ c.toNat) && text.all fun c => folded c = [c] && !isForbidden c

def readLabel? (label : List Char) : Option (List Char) :=
  if label.take 4 = "xn--".toList then (decodeLabel? (label.drop 4)).filter isSpelledLabel
  else some label

/-- Whether the joiners of a text, which `last` stands before, join something: they follow a mark,
or they keep apart letters that run leftward. -/
def joinersFit (last : Run) : List Char → Bool
  | [] => true
  | c :: rest =>
    let between := last = .leftward && rest.head?.any fun next => Run.of next = .leftward
    if c = '\u200D' && last ≠ .mark then false
    else if c = '\u200C' && last ≠ .mark && !between then false
    else joinersFit (Run.of c) rest

def isLabel (label : List Char) : Bool :=
  label.head?.all (fun c => Run.of c ≠ .mark) && joinersFit .sign label

/-- Whether a label is good in a name in which some characters run leftward: its own ones all run
the same way, from the first to the last. -/
def isOrderly (label : List Char) : Bool :=
  let runs := label.map Run.of
  let last := (runs.filter (· ≠ .mark)).getLast?
  match runs with
  | [] => true
  | .leftward :: _ =>
    !runs.contains .rightward && last ≠ some .sign &&
      !(runs.contains .digit && runs.contains .leftwardDigit)
  | .rightward :: _ =>
    !runs.contains .leftward && !runs.contains .leftwardDigit && last ≠ some .sign
  | _ => false

def runsLeftward (c : Char) : Bool := Run.of c = .leftward || Run.of c = .leftwardDigit

def domainName? (text : List Char) : Option (List Char) := do
  let text ← Text.ofUtf8? (Text.percentBytes text)
  let name := text.toList.flatMap folded
  if name.any isForbidden then failure
  let labels ← (name.splitOn '.').mapM readLabel?
  let orderly := if labels.any (·.any runsLeftward) then labels.all isOrderly else true
  if labels.all isLabel && orderly then return name else failure

end Accounts.Net
