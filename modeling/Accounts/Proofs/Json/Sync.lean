import Accounts.Proofs.Json.Attempts
import Accounts.Proofs.Json.Shapes

/-! Records some of whose members are attempted only. Reading that has gone astray in one of them
never comes to the end of the text again, and so a record that is read to the end of its text has
been read member by member as the grammar has it. -/

namespace Accounts.Json

open Text

variable {α : Type} {left text rest : List UInt8} {depth : Nat}

structure Roams (reader : Reader α) : Prop where
  near : ∀ left depth text value rest, Outside left depth text →
    reader text = .ok (value, rest) → Near left depth rest
  strays : ∀ left depth text tree behind value rest, Outside left depth text →
    Spells (.value tree) text behind → reader text = .ok (value, rest) →
    Strays left depth behind rest

def Members.All (holds : ∀ α : Type, String → Reader α → Prop) :
    {αs : List Type} → Members αs → Prop
  | _, .nil => True
  | _, .cons key reader _ rest => holds _ key reader ∧ rest.All holds

def IsAlienKey (key : String) : Prop := ∃ byte ∈ utf8 key, isAlien byte = true

instance (key : String) : Decidable (IsAlienKey key) :=
  inferInstanceAs (Decidable (∃ byte ∈ utf8 key, isAlien byte = true))

theorem Denotes.eq_of_not_alien {body bytes : List UInt8} (denotes : Denotes body bytes)
    (known : ∀ byte ∈ body, isAlien byte = false) : bytes = body := by
  have backslash : isAlien 0x5C = true := rfl
  induction denotes with
  | nil => rfl
  | plain _ _ _ _ ih => rw [ih (List.forall_mem_cons.mp known).2]
  | escape =>
      rw [known 0x5C List.mem_cons_self] at backslash
      contradiction
  | code =>
      rw [known 0x5C List.mem_cons_self] at backslash
      contradiction
  | pair =>
      rw [known 0x5C List.mem_cons_self] at backslash
      contradiction

variable {αs : List Type} {members : Members αs} {slots next last : Slots αs} {row : Row αs}

theorem Members.near_of_turns (roams : members.All fun _ _ reader => Roams reader) {key : String}
    (turns : members.Turns key slots text next rest) (outside : Outside left depth text) :
    Near left depth rest := by
  induction members with
  | nil =>
      obtain ⟨tree, spelled⟩ := passValue_eq_ok.mp turns
      exact Outside.near ((spelled.outside depth).mp outside)
  | cons name reader missing members ih =>
      obtain ⟨slot, slots⟩ := slots
      obtain ⟨slot', slots'⟩ := next
      simp only [Turns] at turns
      split at turns
      next =>
        obtain ⟨-, ⟨value, -, read⟩, -⟩ := turns
        exact roams.1.near _ _ _ _ _ outside read
      next => exact ih roams.2 turns.2

theorem Members.strays_of_turns (roams : members.All fun _ _ reader => Roams reader)
    {key : String} (turns : members.Turns key slots text next rest)
    (outside : Outside left depth text) {tree : Tree} {behind : List UInt8}
    (spells : Spells (.value tree) text behind) : Strays left depth behind rest := by
  induction members with
  | nil =>
      have passed := passValue_eq_ok.mpr ⟨tree, spells⟩
      have same := Except.ok.inj (turns.symm.trans passed)
      exact .inl (Prod.mk.inj same).2
  | cons name reader missing members ih =>
      obtain ⟨slot, slots⟩ := slots
      obtain ⟨slot', slots'⟩ := next
      simp only [Turns] at turns
      split at turns
      next =>
        obtain ⟨-, ⟨value, -, read⟩, -⟩ := turns
        exact roams.1.strays _ _ _ _ _ _ _ outside spells read
      next => exact ih roams.2 turns.2

theorem Members.passes_of_turns (alien : members.All fun _ key _ => IsAlienKey key)
    {key : String} (known : ∀ byte ∈ utf8 key, isAlien byte = false)
    (turns : members.Turns key slots text next rest) : passValue text = .ok ((), rest) := by
  induction members with
  | nil => exact turns
  | cons name reader missing members ih =>
      obtain ⟨slot, slots⟩ := slots
      obtain ⟨slot', slots'⟩ := next
      simp only [Turns] at turns
      split at turns
      next same =>
        obtain ⟨byte, member, is_alien⟩ := alien.1
        rw [← same] at member
        rw [known byte member] at is_alien
        contradiction
      next => exact ih alien.2 turns.2

theorem Members.entriesFrom_closing {first : Bool} {fuel : Nat} {behind : List UInt8}
    (here : afterSpace text = 0x7D :: behind)
    (read : members.entriesFrom first slots (fuel + 1) text = .ok (row, rest)) :
    rest = behind ∧ members.finish slots = some row := by
  have more : moreMembers first text = .ok (false, afterSpace text) :=
    moreMembers_false.mpr ⟨rfl, behind, here⟩
  simp only [entriesFrom, more] at read
  split at read
  · contradiction
  next finished =>
    obtain ⟨⟨⟩, middle, closing, kept⟩ := seqRight_eq_ok.mp read
    obtain ⟨rfl, rfl⟩ := Prod.mk.inj (Except.ok.inj kept)
    have closing := mark_eq_ok.mp closing
    rw [afterSpace_afterSpace, here] at closing
    exact ⟨(List.cons.inj closing).2.symm, finished⟩

theorem Members.entriesFrom_member {first : Bool} {fuel : Nat} {opened : List UInt8}
    (more : moreMembers first text = .ok (true, opened))
    (read : members.entriesFrom first slots (fuel + 1) text = .ok (row, rest)) :
    ∃ key name colon middle next behind, Says key name ∧ opened = key ++ 0x22 :: colon ∧
      afterSpace colon = 0x3A :: middle ∧ members.Turns name slots middle next behind ∧
      members.entriesFrom false next fuel behind = .ok (row, rest) := by
  simp only [entriesFrom, more] at read
  split at read
  · contradiction
  next name colon key_read =>
    obtain ⟨key, said, rfl⟩ := stringTail_eq_ok.mp key_read
    split at read
    · contradiction
    next next behind member_read =>
      obtain ⟨middle, colon_spelled, turns⟩ := behindKey_eq_ok.mp member_read
      exact ⟨key, name, colon, middle, next, behind, said, rfl, colon_spelled, turns, read⟩

/-- Whether a record goes on or ends, it says so with a comma or with its closing bracket. -/
theorem Members.entriesFrom_stuck {fuel : Nat} (stuck : Stuck text) :
    members.entriesFrom false slots fuel text ≠ .ok (row, rest) := by
  intro read
  cases fuel with
  | zero => contradiction
  | succ fuel =>
      simp only [entriesFrom] at read
      split at read
      · contradiction
      next closed more =>
        obtain ⟨-, last, here⟩ := moreMembers_false.mp more
        exact absurd rfl (stuck 0x7D (here ▸ rfl)).2.2
      next opened more =>
        obtain ⟨next, comma, -⟩ := moreMembers_true.mp more
        have comma : afterSpace text = 0x2C :: next := comma
        exact absurd rfl (stuck 0x2C (comma ▸ rfl)).1

section Astray

variable (spaces : afterSpace left = []) (roams : members.All fun _ _ reader => Roams reader)
  (alien : members.All fun _ key _ => IsAlienKey key)

include spaces roams alien

/-- Reading that is too deep or within a string never comes to the end of the text. -/
theorem Members.not_spaces_of_near {fuel : Nat} (near : Near left 1 text)
    (read : members.entriesFrom false slots fuel text = .ok (row, rest)) :
    afterSpace rest ≠ [] := by
  induction fuel generalizing slots text with
  | zero => contradiction
  | succ fuel ih =>
      cases more : moreMembers false text with
      | error fault =>
          simp only [entriesFrom, more] at read
          contradiction
      | ok found =>
          obtain ⟨goes_on, opened⟩ := found
          cases goes_on with
          | false =>
              obtain ⟨-, behind, here⟩ := moreMembers_false.mp more
              obtain ⟨rfl, -⟩ := entriesFrom_closing here read
              rcases near with ⟨deeper, deep, outside⟩ | ⟨other, within⟩
              · obtain ⟨more, rfl⟩ := Nat.exists_eq_add_of_le' deep
                exact ((outside_closing (.inr rfl) here).mp outside).not_spaces
              · exact (within.past (by decide) (by decide) (by decide) here).not_spaces
          | true =>
              obtain ⟨key, name, colon, middle, later, behind, said, rfl, colon_spelled, turns,
                read⟩ := entriesFrom_member more read
              obtain ⟨next, comma, quote⟩ := moreMembers_true.mp more
              have quoted : Quoted key := .of_denotes said
              refine ih ?_ read
              rcases near with ⟨deeper, deep, outside⟩ | ⟨other, within⟩
              · have at_value := (outside_value comma quoted quote colon_spelled).mp outside
                exact (near_of_turns roams turns at_value).mono deep
              · have at_key := (comma.within within).spaced
                rw [quote] at at_key
                -- What is taken for a key has stood outside of strings, and so it is none of the
                -- record's.
                obtain ⟨known, depth, at_colon⟩ := quoted.within_of_within spaces at_key
                have at_value := at_colon.past (by decide) (by decide) (by decide) colon_spelled
                have itself : utf8 name = key := Denotes.eq_of_not_alien said known
                have passed := passes_of_turns alien (itself ▸ known) turns
                obtain ⟨tree, spelled⟩ := passValue_eq_ok.mp passed
                exact .inr (spelled.within spaces at_value)

inductive Members.Run {αs : List Type} (members : Members αs) :
    Slots αs → List (List UInt8 × Tree) → Slots αs → Prop
  | nil {slots : Slots αs} : Run members slots [] slots
  | member {slots next last : Slots αs} {key : List UInt8} {name : String} {tree : Tree}
      {others : List (List UInt8 × Tree)} {text behind : List UInt8} (said : Says key name)
      (spelled : Spells (.value tree) text behind)
      (turns : members.Turns name slots text next behind) (rest : Run members next others last) :
      Run members slots ((key, tree) :: others) last

theorem Members.run_of_entriesFrom {first : Bool} {fuel : Nat}
    {spelled : List (List UInt8 × Tree)} (spells : Spells (.members first spelled) text left)
    (read : members.entriesFrom first slots fuel text = .ok (row, rest))
    (ended : afterSpace rest = []) :
    ∃ last, members.Run slots spelled last ∧ members.finish last = some row := by
  -- Reader and grammar part at a member whose reader strays, and then the text is not read to its
  -- end.
  induction fuel generalizing first slots text spelled with
  | zero => contradiction
  | succ fuel ih =>
      cases spells with
      | noMember here => exact ⟨slots, .nil, (entriesFrom_closing here read).2⟩
      | @member _ key tree others _ next colon middle behind _ introduced quoted quote colon_spelled
          value_spelled others_spelled =>
          have more := moreMembers_true.mpr ⟨next, introduced, quote⟩
          have at_value : Outside left 0 middle :=
            (value_spelled.outside 0).mpr ((others_spelled.outside 0).mpr rfl)
          obtain ⟨body, name, after_key, found, later, after, said, same, found_spelled, turns,
            read⟩ := entriesFrom_member more read
          have ends : passString .plain (key ++ 0x22 :: colon) = .ok after_key :=
            passString_eq_ok.mpr ⟨body, .of_denotes said, same⟩
          obtain rfl := Except.ok.inj ((passString_of_quoted quoted colon).symm.trans ends)
          obtain rfl := List.append_cancel_right same
          rw [colon_spelled] at found_spelled
          obtain rfl := (List.cons.inj found_spelled).2
          rcases strays_of_turns roams turns at_value value_spelled with
            rfl | near | ⟨-, stuck⟩
          · obtain ⟨last, run, finished⟩ := ih others_spelled read
            exact ⟨last, .member said value_spelled turns run, finished⟩
          · exact absurd ended (not_spaces_of_near spaces roams alien near read)
          · exact absurd read (entriesFrom_stuck stuck)

end Astray

end Accounts.Json
