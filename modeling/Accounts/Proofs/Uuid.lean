import Accounts.Uuid
import Mathlib.Data.List.Forall2

/-! Identifiers and their notations: what reads as one, and that it is read back from the notation
in hyphenated groups. -/

namespace Accounts.Uuid

def digitCount (sizes : List Nat) : Nat := sizes.foldr Nat.add 0

theorem unhyphenated?_hyphenated (sizes : List Nat) {text : List Char}
    (length : text.length = digitCount sizes) (some : sizes ≠ []) :
    unhyphenated? sizes (hyphenated sizes text) = .some text := by
  induction sizes generalizing text with
  | nil => contradiction
  | cons size sizes ih =>
      -- The last group has no hyphen behind it.
      cases sizes with
      | nil =>
          have all : text.length = size := length
          rw [hyphenated, unhyphenated?, if_pos all]
      | cons second sizes =>
          have split : text.length = size + digitCount (second :: sizes) := length
          have front : (text.take size).length = size := by
            rw [List.length_take]
            omega
          have behind : (text.drop size).length = digitCount (second :: sizes) := by
            rw [List.length_drop]
            omega
          have taken : (text.take size ++ '-' :: hyphenated (second :: sizes) (text.drop size)).take
              size = text.take size := List.take_left' front
          have left : (text.take size ++ '-' :: hyphenated (second :: sizes) (text.drop size)).drop
              size = '-' :: hyphenated (second :: sizes) (text.drop size) := List.drop_left' front
          rw [hyphenated, unhyphenated?, taken, if_pos front, left]
          · change Option.map _ (unhyphenated? (second :: sizes) (hyphenated _ _)) = _
            rw [ih behind (List.cons_ne_nil _ _), Option.map_some, List.take_append_drop]
          · nofun
          · nofun

theorem length_hyphenated (size : Nat) (sizes : List Nat) (text : List Char) :
    (hyphenated (size :: sizes) text).length = text.length + sizes.length := by
  induction sizes generalizing size text with
  | nil => rfl
  | cons second sizes ih =>
      rw [hyphenated, List.length_append, List.length_cons, ih, List.length_take, List.length_drop,
        List.length_cons]
      · omega
      · nofun

/-! Digits. -/

def digitChar (digit : Fin 16) : Char := Nat.digitChar digit.val

theorem hexDigit_digitChar (digit : Fin 16) :
    Text.hexDigit (digitChar digit) = some digit.val := by
  revert digit
  decide

/-! All notations. -/

def Spells (id : Uuid) (text : List Char) : Prop :=
  List.Forall₂ (fun c digit => Text.hexDigit c = some digit.val) text id.digits.toList

/-- Whether characters write an identifier: its digits alone or in groups, and these plain, in
braces or behind a scheme. -/
inductive Writes (id : Uuid) : List Char → Prop
  | plain {digits : List Char} (spells : id.Spells digits) : Writes id digits
  | grouped {digits : List Char} (spells : id.Spells digits) :
      Writes id (hyphenated groups digits)
  | braced {digits : List Char} (spells : id.Spells digits) :
      Writes id ('{' :: (hyphenated groups digits ++ ['}']))
  | scheme {digits : List Char} (spells : id.Spells digits) :
      Writes id ("urn:uuid:".toList ++ hyphenated groups digits)
  | capitalScheme {digits : List Char} (spells : id.Spells digits) :
      Writes id ("URN:UUID:".toList ++ hyphenated groups digits)

theorem hexDigit_lt {c : Char} {value : Nat} (digit : Text.hexDigit c = some value) :
    value < 16 := by
  unfold Text.hexDigit at digit
  simp only [Char.le_def, UInt32.le_iff_toNat_le] at digit
  unfold Char.toNat at digit
  split at digit
  next range =>
    obtain rfl := Option.some.inj digit
    have top : c.val.toNat ≤ 0x39 := range.2
    omega
  · split at digit
    next range =>
      obtain rfl := Option.some.inj digit
      have top : c.val.toNat ≤ 0x66 := range.2
      omega
    · split at digit
      next range =>
        obtain rfl := Option.some.inj digit
        have top : c.val.toNat ≤ 0x46 := range.2
        omega
      · contradiction

theorem map_hexDigit_eq_some {c : Char} {digit : Fin 16} :
    (Text.hexDigit c).map (Fin.ofNat 16) = some digit ↔ Text.hexDigit c = some digit.val := by
  rw [Option.map_eq_some_iff]
  constructor
  · rintro ⟨value, read, rfl⟩
    rw [read, Fin.val_ofNat, Nat.mod_eq_of_lt (hexDigit_lt read)]
  · intro read
    exact ⟨digit.val, read, Fin.ofNat_val_eq_self digit⟩

theorem hexDigits?_eq_some {text : List Char} {digits : List (Fin 16)} :
    hexDigits? text = some digits ↔
      List.Forall₂ (fun c digit => Text.hexDigit c = some digit.val) text digits := by
  induction text generalizing digits with
  | nil => simp [hexDigits?, eq_comm]
  | cons c text ih =>
      have first : hexDigits? (c :: text) = (do
          let digit ← (Text.hexDigit c).map (Fin.ofNat 16)
          let rest ← hexDigits? text
          pure (digit :: rest)) := by
        rw [hexDigits?, List.mapM_cons]
        rfl
      rw [first, List.forall₂_cons_left_iff]
      constructor
      · intro read
        obtain ⟨digit, here, read⟩ := Option.bind_eq_some_iff.mp read
        obtain ⟨rest, more, same⟩ := Option.bind_eq_some_iff.mp read
        exact ⟨digit, rest, map_hexDigit_eq_some.mp here, ih.mp more, (Option.some.inj same).symm⟩
      · rintro ⟨digit, rest, here, more, rfl⟩
        rw [map_hexDigit_eq_some.mpr here, ih.mpr more]
        rfl

theorem ofDigits?_eq_some {id : Uuid} {digits : List (Fin 16)} :
    ofDigits? digits = some id ↔ digits = id.digits.toList := by
  constructor
  · intro read
    unfold ofDigits? at read
    split at read
    · obtain rfl := Option.some.inj read
      rfl
    · contradiction
  · rintro rfl
    exact ofDigits?_toList id

theorem ofPlain?_eq_some {id : Uuid} {text : List Char} :
    ofPlain? text = some id ↔ id.Spells text := by
  rw [ofPlain?, Option.bind_eq_some_iff]
  constructor
  · rintro ⟨digits, read, same⟩
    rw [ofDigits?_eq_some] at same
    subst same
    exact hexDigits?_eq_some.mp read
  · intro spells
    exact ⟨id.digits.toList, hexDigits?_eq_some.mpr spells, ofDigits?_toList id⟩

theorem Spells.length {id : Uuid} {text : List Char} (spells : id.Spells text) :
    text.length = 32 := by
  rw [List.Forall₂.length_eq spells, Vector.length_toList]

theorem unhyphenated?_eq_some {sizes : List Nat} (some : sizes ≠ []) {text digits : List Char} :
    unhyphenated? sizes text = .some digits ↔
      text = hyphenated sizes digits ∧ digits.length = digitCount sizes := by
  constructor
  · induction sizes generalizing text digits with
    | nil => contradiction
    | cons size sizes ih =>
        cases sizes with
        | nil =>
            intro read
            rw [unhyphenated?] at read
            split at read
            next all =>
              obtain rfl := Option.some.inj read
              exact ⟨rfl, all⟩
            · contradiction
        | cons second sizes =>
            intro read
            rw [unhyphenated?] at read
            · split at read
              next front =>
                split at read
                next rest behind =>
                  obtain ⟨others, joined, rfl⟩ := Option.map_eq_some_iff.mp read
                  obtain ⟨rfl, count⟩ := ih (List.cons_ne_nil _ _) joined
                  have taken : (text.take size ++ others).take size = text.take size :=
                    List.take_left' front
                  have left : (text.take size ++ others).drop size = others :=
                    List.drop_left' front
                  constructor
                  · rw [hyphenated, taken, left, ← behind, List.take_append_drop]
                    nofun
                  · rw [List.length_append, front, count]
                    rfl
                · contradiction
              · contradiction
            · nofun
  · rintro ⟨rfl, length⟩
    exact unhyphenated?_hyphenated sizes length some

theorem ofHyphenated?_eq_some {id : Uuid} {text : List Char} :
    ofHyphenated? text = some id ↔ ∃ digits, text = hyphenated groups digits ∧ id.Spells digits := by
  rw [ofHyphenated?, Option.bind_eq_some_iff]
  constructor
  · rintro ⟨digits, joined, read⟩
    obtain ⟨same, -⟩ := (unhyphenated?_eq_some (List.cons_ne_nil _ _)).mp joined
    exact ⟨digits, same, ofPlain?_eq_some.mp read⟩
  · rintro ⟨digits, same, spells⟩
    exact ⟨digits, (unhyphenated?_eq_some (List.cons_ne_nil _ _)).mpr ⟨same, spells.length⟩,
      ofPlain?_eq_some.mpr spells⟩

theorem length_grouped {id : Uuid} {digits : List Char} (spells : id.Spells digits) :
    (hyphenated groups digits).length = 36 := by
  have hyphens := length_hyphenated 8 [4, 4, 4, 12] digits
  rw [spells.length] at hyphens
  exact hyphens

/-- Digits begin with none of the characters that braces and schemes begin with. -/
theorem Spells.head {id : Uuid} {digits : List Char} (spells : id.Spells digits) :
    ∃ c rest, digits = c :: rest ∧ c ≠ '{' ∧ c ≠ 'u' ∧ c ≠ 'U' := by
  have length := spells.length
  obtain ⟨c, rest, rfl⟩ : ∃ c rest, digits = c :: rest := by
    apply List.exists_cons_of_ne_nil
    rintro rfl
    contradiction
  obtain ⟨digit, more, read, -, -⟩ := List.forall₂_cons_left_iff.mp spells
  refine ⟨c, rest, rfl, ?_, ?_, ?_⟩
  · rintro rfl
    contradiction
  · rintro rfl
    contradiction
  · rintro rfl
    contradiction

theorem parse?_of_head {text : String} {c : Char} {rest : List Char} (chars : text.toList = c :: rest)
    (notBrace : c ≠ '{') (notSmall : c ≠ 'u') (notCapital : c ≠ 'U') :
    parse? text = if text.length = 32 then ofPlain? text.toList else ofHyphenated? text.toList := by
  unfold parse?
  split
  next same =>
    rw [chars] at same
    exact absurd (List.cons.inj same).1 notBrace
  next same =>
    rw [chars] at same
    exact absurd (List.cons.inj same).1 notSmall
  next same =>
    rw [chars] at same
    exact absurd (List.cons.inj same).1 notCapital
  next => rw [String.length_toList]

theorem parse?_eq_some {id : Uuid} {text : String} :
    parse? text = some id ↔ id.Writes text.toList := by
  constructor
  · intro read
    unfold parse? at read
    split at read
    next rest chars =>
      rw [chars]
      split at read
      next closed =>
        obtain ⟨digits, same, spells⟩ := ofHyphenated?_eq_some.mp read
        rw [← List.dropLast_append_getLast? '}' closed, same]
        exact .braced spells
      · contradiction
    next rest chars =>
      obtain ⟨digits, rfl, spells⟩ := ofHyphenated?_eq_some.mp read
      rw [chars]
      exact .scheme spells
    next rest chars =>
      obtain ⟨digits, rfl, spells⟩ := ofHyphenated?_eq_some.mp read
      rw [chars]
      exact .capitalScheme spells
    next =>
      split at read
      · exact .plain (ofPlain?_eq_some.mp read)
      · obtain ⟨digits, same, spells⟩ := ofHyphenated?_eq_some.mp read
        rw [same]
        exact .grouped spells
  · intro writes
    generalize chars : text.toList = written at writes
    cases writes with
    | plain spells =>
        obtain ⟨c, rest, begins, notBrace, notSmall, notCapital⟩ := spells.head
        rw [parse?_of_head (chars.trans begins) notBrace notSmall notCapital, chars,
          ← String.length_toList, chars, if_pos spells.length]
        exact ofPlain?_eq_some.mpr spells
    | @grouped digits spells =>
        obtain ⟨c, rest, begins, notBrace, notSmall, notCapital⟩ := spells.head
        have same : text.toList = c :: (hyphenated groups digits).tail := by
          rw [chars, begins]
          rfl
        rw [parse?_of_head same notBrace notSmall notCapital, ← String.length_toList, chars,
          length_grouped spells, if_neg (by decide)]
        exact ofHyphenated?_eq_some.mpr ⟨digits, rfl, spells⟩
    | @braced digits spells =>
        unfold parse?
        rw [chars]
        simp only [List.getLast?_concat, if_true, List.dropLast_concat]
        exact ofHyphenated?_eq_some.mpr ⟨digits, rfl, spells⟩
    | @scheme digits spells =>
        unfold parse?
        rw [chars]
        exact ofHyphenated?_eq_some.mpr ⟨digits, rfl, spells⟩
    | @capitalScheme digits spells =>
        unfold parse?
        rw [chars]
        exact ofHyphenated?_eq_some.mpr ⟨digits, rfl, spells⟩

theorem spells_digits (id : Uuid) : id.Spells (id.digits.toList.map digitChar) := by
  rw [Spells, List.forall₂_map_left_iff, List.forall₂_same]
  intro digit _
  exact hexDigit_digitChar digit

theorem parse?_render (id : Uuid) : parse? id.render = some id := by
  rw [parse?_eq_some, render, String.toList_ofList]
  exact .grouped (spells_digits id)

end Accounts.Uuid
