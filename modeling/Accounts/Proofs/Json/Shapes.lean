import Accounts.Json.Records
import Accounts.Proofs.Json.Meaning

/-! Records whose members have given names and types, by what their members mean. A member of one
of the names comes once at most; members of other names may be anything. -/

namespace Accounts.Json

inductive Shape : List Type → Type 1
  | nil : Shape []
  | cons {α : Type} {αs : List Type} (key : String) (meaning : Tree → α → Prop)
      (missing : Option α) (rest : Shape αs) : Shape (α :: αs)

def Shape.keys {αs : List Type} : Shape αs → List String
  | .nil => []
  | .cons key _ _ rest => key :: rest.keys

def treesOf (key : String) (entries : List (String × Tree)) : List Tree :=
  (entries.filter fun entry => entry.1 = key).map Prod.snd

/-- Whether the values under a key give a value: the only one by what it means, or what is taken
for a missing one. -/
def Gives {α : Type} (meaning : Tree → α → Prop) (missing : Option α) : List Tree → α → Prop
  | [], value => missing = some value
  | [tree], value => meaning tree value
  | _, _ => False

theorem Gives.once {α : Type} {meaning : Tree → α → Prop} {trees : List Tree} {value : α}
    (gives : Gives meaning none trees value) : ∃ tree, trees = [tree] ∧ meaning tree value := by
  match trees, gives with
  | [tree], gives => exact ⟨tree, rfl, gives⟩

def Shape.Describes {αs : List Type} : Shape αs → List (String × Tree) → Row αs → Prop
  | .nil, _, _ => True
  | .cons key meaning missing rest, entries, (value, values) =>
    Gives meaning missing (treesOf key entries) value ∧ rest.Describes entries values

def Shape.InOrder {αs : List Type} : Shape αs → List Tree → Row αs → Prop
  | .nil, items, _ => items = []
  | .cons _ meaning _ rest, items, (value, values) =>
    ∃ item others, items = item :: others ∧ meaning item value ∧ rest.InOrder others values

def IsRecordOf {αs : List Type} (shape : Shape αs) : Tree → Row αs → Prop
  | .record members, row =>
    ∃ entries, List.Forall₂ (IsEntry Eq) members entries ∧ shape.Describes entries row
  | .list items, row => shape.InOrder items row
  | _, _ => False

inductive Members.Follows (related : ∀ α : Type, Reader α → (Tree → α → Prop) → Prop) :
    {αs : List Type} → Members αs → Shape αs → Prop
  | nil : Follows related .nil .nil
  | cons {α : Type} {αs : List Type} {key : String} {reader : Reader α}
      {meaning : Tree → α → Prop} {missing : Option α} {members : Members αs} {shape : Shape αs}
      (first : related α reader meaning) (rest : Follows related members shape) :
      Follows related (.cons key reader missing members) (.cons key meaning missing shape)

section Shapes

variable {αs : List Type} {members : Members αs} {shape : Shape αs} {slots next : Slots αs}
  {related other : ∀ α : Type, Reader α → (Tree → α → Prop) → Prop}

theorem Members.Follows.imp (follows : members.Follows related shape)
    (implied : ∀ α reader meaning, related α reader meaning → other α reader meaning) :
    members.Follows other shape := by
  induction follows with
  | nil => exact .nil
  | cons first _ ih => exact .cons (implied _ _ _ first) ih

/-! The values met so far. -/

def Shape.Puts {αs : List Type} : Shape αs → String → Tree → Slots αs → Slots αs → Prop
  | .nil, _, _, _, _ => True
  | .cons name meaning _ rest, key, tree, (slot, slots), (slot', slots') =>
    if key = name then
      slot = none ∧ (∃ value, slot' = some value ∧ meaning tree value) ∧ slots' = slots
    else slot' = slot ∧ rest.Puts key tree slots slots'

def Shape.Ends {αs : List Type} : Shape αs → Slots αs → List (String × Tree) → Row αs → Prop
  | .nil, _, _, _ => True
  | .cons key meaning missing rest, (slot, slots), entries, (value, values) =>
    (match slot with
      | none => Gives meaning missing (treesOf key entries) value
      | some met => treesOf key entries = [] ∧ value = met) ∧ rest.Ends slots entries values

theorem treesOf_cons_self (key : String) (tree : Tree) (entries : List (String × Tree)) :
    treesOf key ((key, tree) :: entries) = tree :: treesOf key entries := by
  simp [treesOf]

theorem treesOf_cons_of_ne {key name : String} (other : key ≠ name) (tree : Tree)
    (entries : List (String × Tree)) :
    treesOf name ((key, tree) :: entries) = treesOf name entries := by
  simp [treesOf, other]

theorem Shape.ends_cons_of_not_mem {αs : List Type} {key : String} {tree : Tree}
    {entries : List (String × Tree)} : ∀ {shape : Shape αs} {slots : Slots αs} {row : Row αs},
    key ∉ shape.keys → (shape.Ends slots ((key, tree) :: entries) row ↔
      shape.Ends slots entries row)
  | .nil, _, _, _ => Iff.rfl
  | .cons name meaning missing rest, (slot, slots), (value, values), absent => by
      have other := List.ne_of_not_mem_cons absent
      have later := List.not_mem_of_not_mem_cons absent
      simp only [Ends, treesOf_cons_of_ne other, ends_cons_of_not_mem later]

/-- A member is given by a place that is empty, and then its key comes no more. -/
theorem Shape.ends_cons_self {α : Type} {αs : List Type} {key : String} {tree : Tree}
    {entries : List (String × Tree)} {meaning : Tree → α → Prop} {missing slot : Option α}
    {rest : Shape αs} {slots : Slots αs} {row : Row (α :: αs)} (fresh : key ∉ rest.keys) :
    (Shape.cons key meaning missing rest).Ends (slot, slots) ((key, tree) :: entries) row ↔
      slot = none ∧ ∃ met, meaning tree met ∧
        (Shape.cons key meaning missing rest).Ends (some met, slots) entries row := by
  obtain ⟨value, values⟩ := row
  simp only [Ends, treesOf_cons_self, ends_cons_of_not_mem fresh]
  cases slot with
  | some met => exact ⟨fun both => absurd both.1.1 (List.cons_ne_nil _ _), fun both => nomatch both⟩
  | none =>
      cases others : treesOf key entries with
      | nil =>
          constructor
          · rintro ⟨means, later⟩
            exact ⟨rfl, value, means, ⟨rfl, rfl⟩, later⟩
          · rintro ⟨-, met, means, ⟨-, rfl⟩, later⟩
            exact ⟨means, later⟩
      | cons second more =>
          exact ⟨fun both => both.1.elim, fun ⟨_, _, _, both, _⟩ => nomatch both.1⟩

theorem Shape.ends_cons {αs : List Type} {key : String} {tree : Tree}
    {entries : List (String × Tree)} : ∀ {shape : Shape αs} {slots : Slots αs} {row : Row αs},
    shape.keys.Nodup → (shape.Ends slots ((key, tree) :: entries) row ↔
      ∃ next, shape.Puts key tree slots next ∧ shape.Ends next entries row)
  | .nil, _, _, _ => ⟨fun _ => ⟨(), trivial, trivial⟩, fun _ => trivial⟩
  | .cons name meaning missing rest, (slot, slots), (value, values), distinct => by
      obtain ⟨fresh, distinct⟩ := List.nodup_cons.mp distinct
      by_cases same : key = name
      · subst same
        refine (ends_cons_self fresh).trans ?_
        constructor
        · rintro ⟨empty, met, means, ends⟩
          refine ⟨(some met, slots), ?_, ends⟩
          rw [Puts, if_pos rfl]
          exact ⟨empty, ⟨met, rfl, means⟩, rfl⟩
        · rintro ⟨⟨slot', slots'⟩, puts, ends⟩
          rw [Puts, if_pos rfl] at puts
          obtain ⟨empty, ⟨met, rfl, means⟩, rfl⟩ := puts
          exact ⟨empty, met, means, ends⟩
      · simp only [Ends, treesOf_cons_of_ne same]
        constructor
        · rintro ⟨here, later⟩
          obtain ⟨slots', puts, ends⟩ := (ends_cons distinct).mp later
          refine ⟨(slot, slots'), ?_, here, ends⟩
          rw [Puts, if_neg same]
          exact ⟨rfl, puts⟩
        · rintro ⟨⟨slot', slots'⟩, puts, here, later⟩
          rw [Puts, if_neg same] at puts
          obtain ⟨rfl, puts⟩ := puts
          exact ⟨here, (ends_cons distinct).mpr ⟨slots', puts, later⟩⟩

theorem Members.finish_cons {α : Type} {key : String} {reader : Reader α}
    {missing slot : Option α} {value : α} {values : Row αs} :
    (Members.cons key reader missing members).finish (slot, slots) = some (value, values) ↔
      slot.or missing = some value ∧ members.finish slots = some values := by
  rw [finish]
  constructor
  · intro finished
    split at finished
    next taken takens first_taken others_taken =>
      obtain ⟨rfl, rfl⟩ := Prod.mk.inj (Option.some.inj finished)
      exact ⟨first_taken, others_taken⟩
    next => contradiction
  · rintro ⟨first_taken, others_taken⟩
    rw [first_taken, others_taken]
    rfl

theorem Members.Follows.finish_eq_some (follows : members.Follows related shape) {row : Row αs} :
    members.finish slots = some row ↔ shape.Ends slots [] row := by
  induction follows with
  | nil => exact ⟨fun _ => trivial, fun _ => rfl⟩
  | @cons _ _ key reader meaning missing members shape _ _ ih =>
      obtain ⟨slot, slots⟩ := slots
      obtain ⟨value, values⟩ := row
      have later := @ih slots values
      have here : (slot.or missing = some value) ↔ (match slot with
          | none => Gives meaning missing (treesOf key []) value
          | some met => treesOf key [] = [] ∧ value = met) := by
        cases slot with
        | none => exact Iff.rfl
        | some met =>
            rw [Option.some_or, Option.some.injEq]
            exact ⟨fun same => ⟨rfl, same.symm⟩, fun both => both.2.symm⟩
      exact finish_cons.trans (and_congr here later)

theorem Members.Follows.ends_empty (follows : members.Follows related shape)
    {entries : List (String × Tree)} {row : Row αs} :
    shape.Ends members.empty entries row ↔ shape.Describes entries row := by
  induction follows with
  | nil => exact Iff.rfl
  | cons _ _ ih => exact and_congr_right fun _ => ih

/-! Reading one member. -/

/-- What the value of a member does to the values met: it is read into its place, which has been
empty, or passed over when it has none. -/
def Members.Turns {αs : List Type} :
    Members αs → String → Slots αs → List UInt8 → Slots αs → List UInt8 → Prop
  | .nil, _, _, text, _, rest => passValue text = .ok ((), rest)
  | .cons name reader _ members, key, (slot, slots), text, (slot', slots'), rest =>
    if key = name then
      slot = none ∧ (∃ value, slot' = some value ∧ reader text = .ok (value, rest)) ∧
        slots' = slots
    else slot' = slot ∧ members.Turns key slots text slots' rest

def Members.behindKey {αs : List Type} (members : Members αs) (key : String) (slots : Slots αs) :
    Reader (Slots αs) :=
  (members.accept key slots).getD (mark 0x3A *> passValue *> pure slots)

theorem Members.behindKey_cons_of_ne {α : Type} {name key : String} {reader : Reader α}
    {missing slot : Option α} (other : key ≠ name) {text rest : List UInt8} {slot' : Option α} :
    (Members.cons name reader missing members).behindKey key (slot, slots) text =
        .ok ((slot', next), rest) ↔
      slot' = slot ∧ members.behindKey key slots text = .ok (next, rest) := by
  have accepted : (Members.cons name reader missing members).accept key (slot, slots) =
      (members.accept key slots).map fun more => (do let slots ← more; pure (slot, slots)) :=
    if_neg other
  unfold behindKey
  rw [accepted]
  cases members.accept key slots with
  | some more =>
      rw [Option.map_some, Option.getD_some, Option.getD_some]
      constructor
      · intro read
        obtain ⟨found, middle, more_read, kept⟩ := bind_eq_ok.mp read
        obtain ⟨both, rfl⟩ := Prod.mk.inj (Except.ok.inj kept)
        obtain ⟨rfl, rfl⟩ := Prod.mk.inj both
        exact ⟨rfl, more_read⟩
      · rintro ⟨rfl, read⟩
        exact bind_of_ok read
  | none =>
      rw [Option.map_none, Option.getD_none, Option.getD_none]
      constructor
      · intro read
        obtain ⟨⟨⟩, middle, passed, kept⟩ := seqRight_eq_ok.mp read
        obtain ⟨both, rfl⟩ := Prod.mk.inj (Except.ok.inj kept)
        obtain ⟨rfl, rfl⟩ := Prod.mk.inj both
        exact ⟨rfl, seqRight_of_ok passed⟩
      · rintro ⟨rfl, read⟩
        obtain ⟨⟨⟩, middle, passed, kept⟩ := seqRight_eq_ok.mp read
        obtain ⟨rfl, rfl⟩ := Prod.mk.inj (Except.ok.inj kept)
        exact seqRight_of_ok passed

theorem Members.behindKey_cons_self {α : Type} {key : String} {reader : Reader α}
    {missing slot slot' : Option α} {text rest : List UInt8} :
    (Members.cons key reader missing members).behindKey key (slot, slots) text =
        .ok ((slot', next), rest) ↔
      ∃ middle, afterSpace text = 0x3A :: middle ∧ slot = none ∧
        (∃ value, slot' = some value ∧ reader middle = .ok (value, rest)) ∧ next = slots := by
  cases slot with
  | some met =>
      have accepted : (Members.cons key reader missing members).accept key (some met, slots) =
          some (refuse .mismatched) := if_pos rfl
      have refused : (Members.cons key reader missing members).behindKey key (some met, slots)
          text = .error .mismatched := by
        unfold behindKey
        rw [accepted]
        rfl
      rw [refused]
      exact ⟨nofun, fun ⟨_, _, filled, _⟩ => nomatch filled⟩
  | none =>
      have accepted : (Members.cons key reader missing members).accept key (none, slots) =
          some (do mark 0x3A; let value ← reader; pure (some value, slots)) := if_pos rfl
      unfold behindKey
      rw [accepted, Option.getD_some]
      constructor
      · intro read
        obtain ⟨⟨⟩, middle, marked, read⟩ := bind_eq_ok.mp read
        obtain ⟨value, behind, value_read, kept⟩ := bind_eq_ok.mp read
        obtain ⟨both, rfl⟩ := Prod.mk.inj (Except.ok.inj kept)
        obtain ⟨rfl, rfl⟩ := Prod.mk.inj both
        exact ⟨middle, mark_eq_ok.mp marked, rfl, ⟨value, rfl, value_read⟩, rfl⟩
      · rintro ⟨middle, colon, -, ⟨value, rfl, value_read⟩, rfl⟩
        rw [bind_of_ok (mark_eq_ok.mpr colon), bind_of_ok value_read]
        rfl

theorem Members.behindKey_eq_ok {key : String} {text rest : List UInt8} :
    members.behindKey key slots text = .ok (next, rest) ↔
      ∃ middle, afterSpace text = 0x3A :: middle ∧ members.Turns key slots middle next rest := by
  induction members with
  | nil =>
      constructor
      · intro read
        obtain ⟨⟨⟩, behind, both, kept⟩ := seqRight_eq_ok.mp read
        obtain ⟨⟨⟩, middle, marked, passed⟩ := seqRight_eq_ok.mp both
        obtain ⟨-, rfl⟩ := Prod.mk.inj (Except.ok.inj kept)
        exact ⟨middle, mark_eq_ok.mp marked, passed⟩
      · rintro ⟨middle, colon, passed⟩
        have both : (mark 0x3A *> passValue) text = .ok ((), rest) := by
          rw [seqRight_of_ok (mark_eq_ok.mpr colon)]
          exact passed
        exact seqRight_of_ok both
  | @cons α αs name reader missing members ih =>
      obtain ⟨slot, slots⟩ := slots
      obtain ⟨slot', slots'⟩ := next
      by_cases same : key = name
      · subst same
        simp only [Turns, if_pos]
        exact behindKey_cons_self
      · simp only [Turns, if_neg same]
        rw [behindKey_cons_of_ne same, ih]
        constructor
        · rintro ⟨rfl, middle, colon, turns⟩
          exact ⟨middle, colon, rfl, turns⟩
        · rintro ⟨middle, colon, rfl, turns⟩
          exact ⟨rfl, middle, colon, turns⟩

theorem Members.Follows.puts_of_turns (follows : members.Follows (fun _ => Sound) shape)
    {key : String} {text rest : List UInt8} (turns : members.Turns key slots text next rest) :
    ∃ tree, Spells (.value tree) text rest ∧ shape.Puts key tree slots next := by
  induction follows with
  | nil =>
      obtain ⟨tree, spelled⟩ := passValue_eq_ok.mp turns
      exact ⟨tree, spelled, trivial⟩
  | cons sound _ ih =>
      obtain ⟨slot, slots⟩ := slots
      obtain ⟨slot', slots'⟩ := next
      simp only [Turns] at turns
      simp only [Shape.Puts]
      split at turns
      next same =>
        obtain ⟨rfl, ⟨value, rfl, value_read⟩, rfl⟩ := turns
        obtain ⟨tree, spelled, means⟩ := sound _ _ _ value_read
        refine ⟨tree, spelled, ?_⟩
        rw [if_pos same]
        exact ⟨rfl, ⟨value, rfl, means⟩, rfl⟩
      next other =>
        obtain ⟨rfl, turns⟩ := turns
        obtain ⟨tree, spelled, puts⟩ := ih turns
        refine ⟨tree, spelled, ?_⟩
        rw [if_neg other]
        exact ⟨rfl, puts⟩

theorem Members.Follows.turns_of_puts (follows : members.Follows (fun _ => Complete) shape)
    {key : String} {tree : Tree} {text rest : List UInt8} (spells : Spells (.value tree) text rest)
    (puts : shape.Puts key tree slots next) : members.Turns key slots text next rest := by
  induction follows with
  | nil => exact passValue_eq_ok.mpr ⟨tree, spells⟩
  | cons complete _ ih =>
      obtain ⟨slot, slots⟩ := slots
      obtain ⟨slot', slots'⟩ := next
      simp only [Shape.Puts] at puts
      simp only [Turns]
      split at puts
      next same =>
        obtain ⟨rfl, ⟨value, rfl, means⟩, rfl⟩ := puts
        rw [if_pos same]
        exact ⟨rfl, ⟨value, rfl, complete _ _ _ _ spells means⟩, rfl⟩
      next other =>
        obtain ⟨rfl, puts⟩ := puts
        rw [if_neg other]
        exact ⟨rfl, ih puts⟩

/-! Reading all members. -/

theorem Members.Follows.spells_of_entriesFrom (follows : members.Follows (fun _ => Sound) shape)
    (distinct : shape.keys.Nodup) {first : Bool} {fuel : Nat} {text rest : List UInt8}
    {row : Row αs} (read : members.entriesFrom first slots fuel text = .ok (row, rest)) :
    ∃ spelled entries, Spells (.members first spelled) text rest ∧
      List.Forall₂ (IsEntry Eq) spelled entries ∧ shape.Ends slots entries row := by
  induction fuel generalizing first slots text with
  | zero => contradiction
  | succ fuel ih =>
      simp only [entriesFrom] at read
      split at read
      · contradiction
      next closed more =>
        obtain ⟨rfl, behind, here⟩ := moreMembers_false.mp more
        split at read
        · contradiction
        next finished =>
          obtain ⟨⟨⟩, middle, closing, read⟩ := seqRight_eq_ok.mp read
          obtain ⟨rfl, rfl⟩ := Prod.mk.inj (Except.ok.inj read)
          have closing := mark_eq_ok.mp closing
          rw [afterSpace_afterSpace] at closing
          exact ⟨[], [], .noMember closing, .nil, follows.finish_eq_some.mp finished⟩
      next opened more =>
        obtain ⟨after, introduced, quote⟩ := moreMembers_true.mp more
        split at read
        · contradiction
        next key colon key_read =>
          obtain ⟨body, said, rfl⟩ := stringTail_eq_ok.mp key_read
          split at read
          · contradiction
          next next behind member_read =>
            obtain ⟨middle, colon_spelled, turns⟩ := behindKey_eq_ok.mp member_read
            obtain ⟨tree, spelled, puts⟩ := follows.puts_of_turns turns
            obtain ⟨others, entries, others_spelled, keys, ends⟩ := ih read
            exact ⟨(body, tree) :: others, (key, tree) :: entries,
              .member introduced (.of_denotes said) quote colon_spelled spelled others_spelled,
              .cons ⟨said, rfl⟩ keys, (Shape.ends_cons distinct).mpr ⟨next, puts, ends⟩⟩

theorem Members.Follows.entriesFrom_of_spells
    (follows : members.Follows (fun _ => Complete) shape) (distinct : shape.keys.Nodup)
    {first : Bool} {fuel : Nat} {text rest : List UInt8} {spelled : List (List UInt8 × Tree)}
    {entries : List (String × Tree)} {row : Row αs}
    (spells : Spells (.members first spelled) text rest)
    (keys : List.Forall₂ (IsEntry Eq) spelled entries) (ends : shape.Ends slots entries row)
    (enough : text.length < fuel) :
    members.entriesFrom first slots fuel text = .ok (row, rest) := by
  -- The slots stay general: they hold what the members in front have given.
  induction keys generalizing first slots fuel text with
  | nil =>
      obtain ⟨fuel, rfl⟩ := Nat.exists_eq_add_one_of_ne_zero (Nat.ne_zero_of_lt enough)
      cases spells with
      | noMember here =>
          obtain ⟨more, closing⟩ := noMember_closes first here
          simp only [entriesFrom, more, follows.finish_eq_some.mpr ends]
          exact seqRight_of_ok closing
  | @cons member entry spelled entries same keys ih =>
      obtain ⟨fuel, rfl⟩ := Nat.exists_eq_add_one_of_ne_zero (Nat.ne_zero_of_lt enough)
      obtain ⟨key, tree⟩ := entry
      obtain ⟨said, same⟩ := same
      obtain ⟨next, puts, later⟩ := (Shape.ends_cons distinct).mp ends
      obtain ⟨body, value⟩ := member
      obtain rfl : value = tree := same
      obtain ⟨after, colon, middle, behind, introduced, -, quote, marked, value_spelled,
        rest_spelled⟩ := spells_members_cons spells
      have more := moreMembers_true.mpr ⟨after, introduced, quote⟩
      have key_read : stringTail (body ++ 0x22 :: colon) = .ok (key, colon) :=
        stringTail_eq_ok.mpr ⟨body, said, rfl⟩
      have read : members.behindKey key slots colon = .ok (next, behind) :=
        behindKey_eq_ok.mpr ⟨middle, marked, follows.turns_of_puts value_spelled puts⟩
      have shorter := Nat.lt_trans value_spelled.length (length_of_value introduced quote marked)
      rw [behindKey] at read
      simp only [entriesFrom, more, key_read, read]
      exact ih rest_spelled later (by omega)

/-! Reading a list in place of a record. -/

theorem Members.Follows.spells_of_itemsFrom (follows : members.Follows (fun _ => Sound) shape)
    {first : Bool} {text behind rest : List UInt8} {row : Row αs}
    (read : members.itemsFrom first text = .ok (row, behind))
    (closing : listEnd behind = .ok ((), rest)) :
    ∃ items, Spells (.items first items) text rest ∧ shape.InOrder items row := by
  induction follows generalizing first text with
  | nil =>
      obtain ⟨-, rfl⟩ := Prod.mk.inj (Except.ok.inj read)
      exact ⟨[], .noItem (mark_eq_ok.mp closing), rfl⟩
  | cons sound _ ih =>
      rw [itemsFrom] at read
      obtain ⟨more, after, more_read, read⟩ := bind_eq_ok.mp read
      cases more with
      | false => contradiction
      | true =>
          rw [if_pos rfl] at read
          obtain ⟨value, middle, value_read, read⟩ := bind_eq_ok.mp read
          obtain ⟨values, behind', values_read, read⟩ := bind_eq_ok.mp read
          obtain ⟨rfl, rfl⟩ := Prod.mk.inj (Except.ok.inj read)
          obtain ⟨next, introduced, rfl⟩ := introduces_of_moreItems more_read
          obtain ⟨tree, spelled, means⟩ := sound _ _ _ value_read
          have spelled := spells_value_congr (afterSpace_afterSpace next) spelled
          obtain ⟨items, items_spelled, inOrder⟩ := ih values_read
          exact ⟨tree :: items, .item introduced spelled items_spelled, tree, items, rfl, means,
            inOrder⟩

theorem Members.Follows.itemsFrom_of_spells
    (follows : members.Follows (fun _ => Complete) shape) {first : Bool}
    {text rest : List UInt8} {items : List Tree} {row : Row αs}
    (spells : Spells (.items first items) text rest) (inOrder : shape.InOrder items row) :
    ∃ behind, members.itemsFrom first text = .ok (row, behind) ∧
      listEnd behind = .ok ((), rest) := by
  induction follows generalizing first text items with
  | nil =>
      obtain rfl : items = [] := inOrder
      cases spells with
      | noItem here => exact ⟨text, rfl, mark_eq_ok.mpr here⟩
  | cons complete _ ih =>
      obtain ⟨value, values⟩ := row
      obtain ⟨item, others, rfl, means, inOrder⟩ := inOrder
      obtain ⟨next, middle, introduced, spelled, items_spelled⟩ := spells_items_cons spells
      have more := moreItems_of_introduces introduced spelled
      have value_read := complete _ _ _ _
        (spells_value_congr (afterSpace_afterSpace next).symm spelled) means
      obtain ⟨behind, values_read, closing⟩ := ih items_spelled inOrder
      refine ⟨behind, ?_, closing⟩
      rw [itemsFrom, bind_of_ok more, if_pos rfl, bind_of_ok value_read,
        bind_of_ok values_read]
      rfl

theorem recordOf_exact (follows : members.Follows (fun _ => Exact) shape)
    (distinct : shape.keys.Nodup) : Exact (recordOf members) (IsRecordOf shape) where
  sound := by
    have sound := follows.imp fun _ _ _ both => both.sound
    intro input row rest read
    unfold recordOf at read
    split at read
    next behind here =>
      obtain ⟨spelled, entries, spells, keys, ends⟩ := sound.spells_of_entriesFrom distinct read
      exact ⟨.record spelled, .record here spells, entries, keys, sound.ends_empty.mp ends⟩
    next behind here =>
      obtain ⟨values, middle, values_read, read⟩ := bind_eq_ok.mp read
      obtain ⟨⟨⟩, behind', closing, read⟩ := bind_eq_ok.mp read
      obtain ⟨rfl, rfl⟩ := Prod.mk.inj (Except.ok.inj read)
      obtain ⟨items, spells, inOrder⟩ := sound.spells_of_itemsFrom values_read closing
      exact ⟨.list items, .list here spells, inOrder⟩
    next => exact absurd read otherType_ne_ok
  complete := by
    have complete := follows.imp fun _ _ _ both => both.complete
    intro input tree row rest spells means
    cases spells with
    | record here spelled =>
        obtain ⟨entries, keys, describes⟩ := means
        rw [recordOf, here]
        exact complete.entriesFrom_of_spells distinct spelled keys
          (complete.ends_empty.mpr describes) (Nat.lt_succ_self _)
    | list here spelled =>
        obtain ⟨behind, values_read, closing⟩ := complete.itemsFrom_of_spells spelled means
        rw [recordOf, here]
        exact (bind_of_ok values_read).trans (bind_of_ok closing)
    | _ => contradiction

end Shapes

end Accounts.Json
