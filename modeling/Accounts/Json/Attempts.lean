import Accounts.Json.Collections

/-! Attempts at values in text that is known to be JSON. A value may be refused for what it stands
for: a number for its size, a string for a code that is no character or bytes that are no text, a
list or a record for what is in it or for its depth. Reading then goes on where the fault shows,
past the end of whatever list or record ends there. -/

namespace Accounts.Json

/-- An attempt gives a value or none, and in both cases the text from which reading goes on. -/
abbrev Attempt (α : Type) := List UInt8 → Option α × List UInt8

def attempted {α : Type} (attempt : Attempt α) : Reader (Option α) := fun text => .ok (attempt text)

def attemptWord {α : Type} (tail : List UInt8) (value : α) : Attempt α := fun text =>
  match word tail text with
  | .ok (_, rest) => (some value, rest)
  | .error _ => (none, text)

/-- Attempts a string up to its closing quote; `done` holds the bytes of its text in reverse. The
byte that shows a fault is passed over. -/
def attemptStringFrom (done : List UInt8) (mode : StringMode) : Attempt (List UInt8)
  | [] => (none, [])
  | byte :: rest =>
    match mode, decide (byte = 0x22) with
    | .plain, true => (some done.reverse, rest)
    | mode, _ =>
      match mode.step byte with
      | .error _ => (none, rest)
      | .ok (more, mode) => attemptStringFrom (more.reverse ++ done) mode rest

def attemptString : Attempt String := fun text =>
  let (bytes, rest) := attemptStringFrom [] .plain text
  (bytes.bind Text.ofUtf8?, rest)

/-- Attempts a number. One whose exponent is too large is left within it. -/
def attemptNumber : Attempt Value := fun text =>
  match numeral text with
  | .error _ => (none, text)
  | .ok (n, rest) =>
    match n.value? with
    | some value => (some value, rest)
    | none => (none, n.unread ++ rest)

def attemptScalar? (byte : UInt8) (rest : List UInt8) : Option (Option Value × List UInt8) :=
  if byte = 0x6E then some (attemptWord nullTail .null rest)
  else if byte = 0x74 then some (attemptWord trueTail (.boolean true) rest)
  else if byte = 0x66 then some (attemptWord falseTail (.boolean false) rest)
  else if startsNumeral byte then some (attemptNumber (byte :: rest))
  else if byte = 0x22 then
    let (value, rest) := attemptString rest
    some (value.map .text, rest)
  else none

/-- Where reading goes on behind a fault in a list: past its end or past a comma, if one comes
next. -/
def afterFaultyItem (text : List UInt8) : List UInt8 :=
  match afterSpace text with
  | 0x5D :: rest => rest
  | 0x2C :: rest => afterSpace rest
  | rest => rest

/-- Where reading goes on behind a fault in a record: past its end, if that comes next. -/
def afterFaultyMember (text : List UInt8) : List UInt8 :=
  match afterSpace text with
  | 0x7D :: rest => rest
  | rest => rest

def attemptItems (item : Attempt Value) (first : Bool) (done : List Value) : Nat → Attempt Value
  | 0 => fun text => (none, text)
  | fuel + 1 => fun text =>
    match moreItems first text with
    | .error _ => (none, afterFaultyItem text)
    | .ok (false, rest) => (some (.list done.reverse), afterFaultyItem rest)
    | .ok (true, rest) =>
      match item rest with
      | (some value, rest) => attemptItems item false (value :: done) fuel rest
      | (none, rest) => (none, afterFaultyItem rest)

def attemptMembers (inner : Attempt Value) (first : Bool) (done : List (String × Value)) :
    Nat → Attempt Value
  | 0 => fun text => (none, text)
  | fuel + 1 => fun text =>
    match moreMembers first text with
    | .error _ => (none, afterFaultyMember text)
    | .ok (false, rest) => (some (.record done.reverse), afterFaultyMember rest)
    | .ok (true, rest) =>
      match attemptString rest with
      | (none, rest) => (none, afterFaultyMember rest)
      | (some key, rest) =>
        match mark 0x3A rest with
        | .error _ => (none, afterFaultyMember rest)
        | .ok (_, rest) =>
          match inner rest with
          | (some value, rest) => attemptMembers inner false ((key, value) :: done) fuel rest
          | (none, rest) => (none, afterFaultyMember rest)

/-- Attempts a value; `inner` attempts what is nested in it, which is refused without one. -/
def attemptWith (inner : Option (Attempt Value)) : Attempt Value := fun text =>
  match afterSpace text with
  | [] => (none, [])
  | byte :: rest =>
    match attemptScalar? byte rest, inner with
    | some result, _ => result
    | none, none => (none, byte :: rest)
    | none, some inner =>
      if byte = 0x5B then attemptItems inner true [] (rest.length + 1) rest
      else if byte = 0x7B then attemptMembers inner true [] (rest.length + 1) rest
      else (none, byte :: rest)

def attemptValue : Nat → Attempt Value
  | 0 => attemptWith none
  | depth + 1 => attemptWith (some (attemptValue depth))

end Accounts.Json
