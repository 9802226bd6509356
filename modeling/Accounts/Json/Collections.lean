import Accounts.Json.Scalars
import Accounts.Json.Value

/-! Reading JSON lists, and values that are kept whole. -/

namespace Accounts.Json

/-- Reads what introduces the next item of a list: nothing before the first, a comma before each
other. Tells whether there is one. -/
def moreItems (first : Bool) : Reader Bool := fun text =>
  match afterSpace text with
  | [] => .error .ended
  | byte :: rest =>
    if byte = 0x5D then .ok (false, byte :: rest)
    else if first then .ok (true, byte :: rest)
    else if byte = 0x2C then
      match afterSpace rest with
      | [] => .error .ended
      | next :: rest => if next = 0x5D then .error .malformed else .ok (true, next :: rest)
    else .error .malformed

def moreMembers (first : Bool) : Reader Bool := fun text =>
  match afterSpace text with
  | [] => .error .ended
  | byte :: rest =>
    if byte = 0x7D then .ok (false, byte :: rest)
    else if first then
      if byte = 0x22 then .ok (true, rest) else .error .malformed
    else if byte = 0x2C then
      match afterSpace rest with
      | [] => .error .ended
      | next :: rest => if next = 0x22 then .ok (true, rest) else .error .malformed
    else .error .malformed

def itemsFrom {α : Type} (reader : Reader α) (first : Bool) (done : List α) :
    Nat → Reader (List α)
  | 0 => refuse .ended
  | fuel + 1 => fun text =>
    match moreItems first text with
    | .error fault => .error fault
    | .ok (false, rest) => (mark 0x5D *> pure done.reverse) rest
    | .ok (true, rest) =>
      match reader rest with
      | .error fault => .error fault
      | .ok (item, rest) => itemsFrom reader false (item :: done) fuel rest

def entriesFrom {α : Type} (reader : Reader α) (first : Bool) (done : List (String × α)) :
    Nat → Reader (List (String × α))
  | 0 => refuse .ended
  | fuel + 1 => fun text =>
    match moreMembers first text with
    | .error fault => .error fault
    | .ok (false, rest) => (mark 0x7D *> pure done.reverse) rest
    | .ok (true, rest) =>
      match (do let key ← stringTail; mark 0x3A; let value ← reader; pure (key, value)) rest with
      | .error fault => .error fault
      | .ok (entry, rest) => entriesFrom reader false (entry :: done) fuel rest

/-- Reads a list. Each item takes a byte at least. -/
def listOf {α : Type} (reader : Reader α) : Reader (List α) := fun text =>
  match afterSpace text with
  | 0x5B :: rest => itemsFrom reader true [] (rest.length + 1) rest
  | rest => otherType rest

def Numeral.value? (n : Numeral) : Option Value :=
  match n.wholeNumber? with
  | some value => some (.integer value)
  | none => n.double?.map .fraction

def number : Reader Value := do
  match (← numeral).value? with
  | some value => pure value
  | none => refuse .malformed

/-- Reads a value and keeps it whole; `inner` reads what is nested in it, which is refused without
one. -/
def valueWith (inner : Option (Reader Value)) : Reader Value := fun input =>
  match afterSpace input with
  | [] => .error .ended
  | byte :: rest =>
    if byte = 0x6E then (word nullTail *> pure Value.null) rest
    else if byte = 0x74 then (word trueTail *> pure (Value.boolean true)) rest
    else if byte = 0x66 then (word falseTail *> pure (Value.boolean false)) rest
    else if startsNumeral byte then
      number (byte :: rest)
    else if byte = 0x22 then (Value.text <$> stringTail) rest
    else
      match inner with
      | none => .error .malformed
      | some inner =>
        if byte = 0x5B then (Value.list <$> itemsFrom inner true [] (rest.length + 1)) rest
        else if byte = 0x7B then (Value.record <$> entriesFrom inner true [] (rest.length + 1)) rest
        else .error .malformed

def value : Nat → Reader Value
  | 0 => valueWith none
  | depth + 1 => valueWith (some (value depth))

end Accounts.Json
