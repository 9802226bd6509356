import Accounts.Json.Scalars

/-! Passing over JSON values of any depth. -/

namespace Accounts.Json

inductive Bracket
  | list
  | record
  deriving DecidableEq

def Bracket.close : Bracket → UInt8
  | .list => 0x5D
  | .record => 0x7D

inductive PassSpot
  /-- A value is due. -/
  | value
  /-- A list or a record has just been opened. -/
  | opened
  /-- A value has just ended. -/
  | after

def passKey : Bracket → List UInt8 → Except Fault (List UInt8)
  | .list, text => .ok text
  | .record, text =>
    match afterSpace text with
    | [] => .error .ended
    | 0x22 :: rest =>
      match passString .plain rest with
      | .error fault => .error fault
      | .ok rest => (mark 0x3A rest).map Prod.snd
    | _ => .error .malformed

def passOpening (text : List UInt8) : Except Fault (Option Bracket × List UInt8) :=
  match text with
  | [] => .error .ended
  | byte :: rest =>
    if byte = 0x6E then (word nullTail rest).map fun (_, rest) => (none, rest)
    else if byte = 0x74 then (word trueTail rest).map fun (_, rest) => (none, rest)
    else if byte = 0x66 then (word falseTail rest).map fun (_, rest) => (none, rest)
    else if byte = 0x2D || isDigit byte then
      match numeral (byte :: rest) with
      | .error _ => .error .malformed
      | .ok (_, rest) => .ok (none, rest)
    else if byte = 0x22 then (passString .plain rest).map fun rest => (none, rest)
    else if byte = 0x5B then .ok (some .list, rest)
    else if byte = 0x7B then .ok (some .record, rest)
    else .error .malformed

def passFrom : Nat → PassSpot → List Bracket → List UInt8 → Except Fault (List UInt8)
  | 0, _, _, _ => .error .ended
  | fuel + 1, .value, brackets, text =>
    match passOpening (afterSpace text) with
    | .error fault => .error fault
    | .ok (some bracket, rest) => passFrom fuel .opened (bracket :: brackets) rest
    | .ok (none, rest) => passFrom fuel .after brackets rest
  | _ + 1, .after, [], text => .ok text
  | _ + 1, .opened, [], text => .ok text
  | fuel + 1, .after, bracket :: brackets, text =>
    match afterSpace text with
    | [] => .error .ended
    | byte :: rest =>
      if byte = bracket.close then passFrom fuel .after brackets rest
      else if byte = 0x2C then
        match passKey bracket rest with
        | .error fault => .error fault
        | .ok rest => passFrom fuel .value (bracket :: brackets) rest
      else .error .malformed
  | fuel + 1, .opened, bracket :: brackets, text =>
    match afterSpace text with
    | [] => .error .ended
    | byte :: rest =>
      if byte = bracket.close then passFrom fuel .after brackets rest
      else match passKey bracket (byte :: rest) with
        | .error fault => .error fault
        | .ok rest => passFrom fuel .value (bracket :: brackets) rest

/-- Passes over a value. Each byte is met in at most two steps. -/
def passValue : Reader Unit := fun text =>
  match passFrom (2 * text.length + 2) .value [] text with
  | .error fault => .error fault
  | .ok rest => .ok ((), rest)

end Accounts.Json
