import Accounts.Json.Collections
import Accounts.Json.Ignored

/-! Reading JSON records whose members have given names and types. -/

namespace Accounts.Json

/-- The members of a record in order: the key of each, how its value is read, and the value that it
has when it is missing, if it may be. -/
inductive Members : List Type → Type 1
  | nil : Members []
  | cons {α : Type} {αs : List Type} (key : String) (reader : Reader α) (missing : Option α)
      (rest : Members αs) : Members (α :: αs)

def Row : List Type → Type
  | [] => Unit
  | α :: αs => α × Row αs

def Slots : List Type → Type
  | [] => Unit
  | α :: αs => Option α × Slots αs

def Members.empty {αs : List Type} : Members αs → Slots αs
  | .nil => ()
  | .cons _ _ _ rest => (none, rest.empty)

/-- The reader of what stands behind a key; none when the record has no such member. A member that
comes twice is refused at its second key. -/
def Members.accept {αs : List Type} : Members αs → String → Slots αs → Option (Reader (Slots αs))
  | .nil, _, _ => none
  | .cons name reader _ rest, key, (slot, slots) =>
    if key = name then
      match slot with
      | some _ => some (refuse .mismatched)
      | none => some do mark 0x3A; let value ← reader; pure (some value, slots)
    else (rest.accept key slots).map fun more => do let slots ← more; pure (slot, slots)

def Members.finish {αs : List Type} : Members αs → Slots αs → Option (Row αs)
  | .nil, _ => some ()
  | .cons _ _ missing rest, (slot, slots) =>
    match slot.or missing, rest.finish slots with
    | some value, some values => some (value, values)
    | _, _ => none

def Members.entriesFrom {αs : List Type} (members : Members αs) (first : Bool) (slots : Slots αs) :
    Nat → Reader (Row αs)
  | 0 => refuse .ended
  | fuel + 1 => fun text =>
    match moreMembers first text with
    | .error fault => .error fault
    | .ok (false, rest) =>
      match members.finish slots with
      | none => .error .mismatched
      | some values => (mark 0x7D *> pure values) rest
    | .ok (true, rest) =>
      match stringTail rest with
      | .error fault => .error fault
      | .ok (key, rest) =>
        match ((members.accept key slots).getD (mark 0x3A *> passValue *> pure slots)) rest with
        | .error fault => .error fault
        | .ok (slots, rest) => members.entriesFrom false slots fuel rest

def Members.itemsFrom {αs : List Type} : Members αs → Bool → Reader (Row αs)
  | .nil, _ => pure ()
  | .cons _ reader _ rest, first => do
    if ← moreItems first then
      let value ← reader
      let values ← rest.itemsFrom false
      pure (value, values)
    else refuse .mismatched

def listEnd : Reader Unit := mark 0x5D

/-- Reads a record, or a list with the values of its members in order. -/
def recordOf {αs : List Type} (members : Members αs) : Reader (Row αs) := fun text =>
  match afterSpace text with
  | 0x7B :: rest => members.entriesFrom true members.empty (rest.length + 1) rest
  | 0x5B :: rest => (do let values ← members.itemsFrom true; listEnd; pure values) rest
  | rest => otherType rest

end Accounts.Json
