import Accounts.Proofs.Json.Scalars

/-! What is passed over is a value of the grammar, and each such value is passed over. The grammar
nests as deep as it likes, and so the passing keeps the brackets that are open in a list. -/

namespace Accounts.Json

/-! Lengths. -/

theorem SpellsDigits.length {digits text rest : List UInt8}
    (spelled : SpellsDigits digits text rest) : rest.length < text.length := by
  obtain ⟨nonempty, -, rfl, -⟩ := spelled
  have positive := List.length_pos_iff.mpr nonempty
  rw [List.length_append]
  omega

theorem SpellsSign.length {negative : Bool} {text rest : List UInt8}
    (spelled : SpellsSign negative text rest) : rest.length ≤ text.length := by
  cases spelled with
  | minus => exact Nat.le_succ _
  | none => exact Nat.le_refl _

theorem SpellsFraction.length {fraction : Option (List UInt8)} {text rest : List UInt8}
    (spelled : SpellsFraction fraction text rest) : rest.length ≤ text.length := by
  cases spelled with
  | point digits => exact Nat.le_succ_of_le (Nat.le_of_lt digits.length)
  | none => exact Nat.le_refl _

theorem SpellsExponent.length {exponent : Option (Bool × List UInt8)} {text rest : List UInt8}
    (spelled : SpellsExponent exponent text rest) : rest.length ≤ text.length := by
  cases spelled with
  | plus _ digits => exact Nat.le_succ_of_le (Nat.le_succ_of_le (Nat.le_of_lt digits.length))
  | minus _ digits => exact Nat.le_succ_of_le (Nat.le_succ_of_le (Nat.le_of_lt digits.length))
  | unsigned _ digits => exact Nat.le_succ_of_le (Nat.le_of_lt digits.length)
  | none => exact Nat.le_refl _

theorem SpellsNumeral.length {n : Numeral} {text rest : List UInt8}
    (spelled : SpellsNumeral n text rest) : rest.length < text.length := by
  obtain ⟨unsigned, behind, mantissa, sign, digits, -, point, mark⟩ := spelled
  have sign_length := sign.length
  have digits_length := digits.length
  have point_length := point.length
  have mark_length := mark.length
  omega

theorem length_of_afterSpace {text rest : List UInt8} {byte : UInt8}
    (here : afterSpace text = byte :: rest) : rest.length < text.length := by
  have shorter := afterSpace_length_le text
  rw [here] at shorter
  exact shorter

theorem Introduces.length {first : Bool} {text next : List UInt8}
    (here : Introduces first text next) : next.length ≤ text.length := by
  cases first with
  | true =>
      obtain rfl : text = next := here
      exact Nat.le_refl _
  | false => exact Nat.le_of_lt (length_of_afterSpace here)

theorem length_of_value {first : Bool} {text next key colon middle : List UInt8}
    (here : Introduces first text next)
    (key_spelled : afterSpace next = 0x22 :: (key ++ 0x22 :: colon))
    (colon_spelled : afterSpace colon = 0x3A :: middle) : middle.length < text.length := by
  have introduced := here.length
  have key_length := length_of_afterSpace key_spelled
  have colon_length := length_of_afterSpace colon_spelled
  simp only [List.length_append, List.length_cons] at key_length
  omega

theorem Spells.length {part : Part} {text rest : List UInt8} (spells : Spells part text rest) :
    rest.length < text.length := by
  induction spells with
  | null here =>
      have shorter := length_of_afterSpace here
      rw [List.append_eq, List.length_append] at shorter
      omega
  | @boolean value text rest here =>
      have shorter := afterSpace_length_le text
      rw [here, List.length_append] at shorter
      have letters : 0 < (booleanLetters value).length := by
        cases value with
        | true => decide
        | false => decide
      omega
  | number here => exact Nat.lt_of_lt_of_le here.length (afterSpace_length_le _)
  | text _ here =>
      have shorter := length_of_afterSpace here
      simp only [List.length_append, List.length_cons] at shorter
      omega
  | list here _ ih => exact Nat.lt_trans ih (length_of_afterSpace here)
  | record here _ ih => exact Nat.lt_trans ih (length_of_afterSpace here)
  | noItem here => exact length_of_afterSpace here
  | item here _ _ value_ih items_ih =>
      exact Nat.lt_of_lt_of_le (Nat.lt_trans items_ih value_ih) here.length
  | noMember here => exact length_of_afterSpace here
  | member here _ key_spelled colon_spelled _ _ value_ih members_ih =>
      exact Nat.lt_trans (Nat.lt_trans members_ih value_ih)
        (length_of_value here key_spelled colon_spelled)

/-! Scalars and opening brackets. -/

def Bracket.opening : Bracket → UInt8
  | .list => 0x5B
  | .record => 0x7B

theorem passWord_eq_ok {letters text rest : List UInt8} {found : Option Bracket} :
    ((word letters text).map fun taken => ((none : Option Bracket), taken.2)) =
      .ok (found, rest) ↔ text = letters ++ rest ∧ found = none := by
  constructor
  · intro mapped
    cases read : word letters text with
    | error fault =>
        rw [read] at mapped
        contradiction
    | ok taken =>
        rw [read] at mapped
        obtain ⟨rfl, rfl⟩ := Prod.mk.inj (Except.ok.inj mapped)
        exact ⟨word_eq_ok.mp read, rfl⟩
  · rintro ⟨same, rfl⟩
    rw [word_eq_ok.mpr same]
    rfl

/-- What a value opens with is a bracket, or else it is all of the value. -/
theorem passOpening_cases {text rest : List UInt8} {found : Option Bracket}
    (opened : passOpening (afterSpace text) = .ok (found, rest)) :
    (found = none ∧ ∃ tree, Spells (.value tree) text rest) ∨
      ∃ bracket, found = some bracket ∧ afterSpace text = bracket.opening :: rest := by
  unfold passOpening at opened
  split at opened
  · contradiction
  next byte behind here =>
    split at opened
    next same =>
      subst same
      obtain ⟨rfl, none⟩ := passWord_eq_ok.mp opened
      exact .inl ⟨none, .null, .null here⟩
    split at opened
    next same =>
      subst same
      obtain ⟨rfl, none⟩ := passWord_eq_ok.mp opened
      exact .inl ⟨none, .boolean true, .boolean here⟩
    split at opened
    next same =>
      subst same
      obtain ⟨rfl, none⟩ := passWord_eq_ok.mp opened
      exact .inl ⟨none, .boolean false, .boolean here⟩
    split at opened
    next =>
      split at opened
      · contradiction
      next n behind' read =>
        obtain ⟨rfl, rfl⟩ := Prod.mk.inj (Except.ok.inj opened)
        exact .inl ⟨rfl, .number n, .number (here ▸ numeral_eq_ok.mp read)⟩
    split at opened
    next same =>
      cases passed : passString .plain behind with
      | error fault =>
          rw [passed] at opened
          contradiction
      | ok behind' =>
          rw [passed] at opened
          obtain ⟨rfl, rfl⟩ := Prod.mk.inj (Except.ok.inj opened)
          obtain ⟨body, quoted, rfl⟩ := passString_eq_ok.mp passed
          exact .inl ⟨rfl, .text body, .text quoted (same ▸ here)⟩
    split at opened
    next same =>
      subst same
      obtain ⟨rfl, rfl⟩ := Prod.mk.inj (Except.ok.inj opened)
      exact .inr ⟨.list, rfl, here⟩
    split at opened
    next same =>
      subst same
      obtain ⟨rfl, rfl⟩ := Prod.mk.inj (Except.ok.inj opened)
      exact .inr ⟨.record, rfl, here⟩
    next => contradiction

theorem passOpening_numeral {text rest : List UInt8} {n : Numeral}
    (spelled : SpellsNumeral n text rest) : passOpening text = .ok (none, rest) := by
  obtain ⟨first, more, rfl, starts⟩ := spelled.starts
  have notNull : first ≠ 0x6E := ne_of_startsNumeral starts rfl
  have notTrue : first ≠ 0x74 := ne_of_startsNumeral starts rfl
  have notFalse : first ≠ 0x66 := ne_of_startsNumeral starts rfl
  have numeralStarts : (decide (first = 0x2D) || isDigit first) = true := starts
  rw [passOpening, if_neg notNull, if_neg notTrue, if_neg notFalse, if_pos numeralStarts,
    numeral_eq_ok.mpr spelled]

theorem passOpening_text {body rest : List UInt8} (quoted : Quoted body) :
    passOpening (0x22 :: (body ++ 0x22 :: rest)) = .ok (none, rest) := by
  rw [passOpening, if_neg (by decide), if_neg (by decide), if_neg (by decide),
    if_neg (by decide), if_pos rfl, passString_of_quoted quoted]
  rfl

theorem passOpening_opening (bracket : Bracket) (rest : List UInt8) :
    passOpening (bracket.opening :: rest) = .ok (some bracket, rest) := by
  cases bracket with
  | list => rfl
  | record => rfl

/-! Keys. -/

theorem passKey_record_eq_ok {text rest : List UInt8} :
    passKey .record text = .ok rest ↔ ∃ key colon, Quoted key ∧
      afterSpace text = 0x22 :: (key ++ 0x22 :: colon) ∧ afterSpace colon = 0x3A :: rest := by
  constructor
  · intro passed
    rw [passKey] at passed
    split at passed
    · contradiction
    next behind here =>
      split at passed
      · contradiction
      next colon key_passed =>
        obtain ⟨key, quoted, rfl⟩ := passString_eq_ok.mp key_passed
        cases marked : mark 0x3A colon with
        | error fault =>
            rw [marked] at passed
            contradiction
        | ok taken =>
            rw [marked] at passed
            obtain rfl := Except.ok.inj passed
            exact ⟨key, colon, quoted, here, mark_eq_ok.mp marked⟩
    · contradiction
  · rintro ⟨key, colon, quoted, here, colon_spelled⟩
    rw [passKey, here]
    simp only [passString_of_quoted quoted, mark_eq_ok.mpr colon_spelled]
    rfl

theorem passKey_afterSpace (text : List UInt8) :
    passKey .record (afterSpace text) = passKey .record text := by
  rw [passKey, passKey, afterSpace_afterSpace]

/-! What is passed over is spelled by the grammar. -/

def Bracket.Ends : Bracket → Bool → List UInt8 → List UInt8 → Prop
  | .list, first, text, rest => ∃ items, Spells (.items first items) text rest
  | .record, first, text, rest => ∃ members, Spells (.members first members) text rest

def Closes : List Bracket → List UInt8 → List UInt8 → Prop
  | [], text, rest => text = rest
  | bracket :: brackets, text, rest =>
    ∃ behind, bracket.Ends false text behind ∧ Closes brackets behind rest

def PassSpot.Leads : PassSpot → List Bracket → List UInt8 → List UInt8 → Prop
  | .value, brackets, text, rest =>
    ∃ tree behind, Spells (.value tree) text behind ∧ Closes brackets behind rest
  | .after, brackets, text, rest => Closes brackets text rest
  | .opened, [], text, rest => text = rest
  | .opened, bracket :: brackets, text, rest =>
    ∃ behind, bracket.Ends true text behind ∧ Closes brackets behind rest

namespace Bracket

variable {bracket : Bracket} {first : Bool} {text next behind rest : List UInt8}

theorem spells_of_ends (here : afterSpace text = bracket.opening :: next)
    (ends : bracket.Ends true next rest) : ∃ tree, Spells (.value tree) text rest := by
  cases bracket with
  | list =>
      obtain ⟨items, spelled⟩ := ends
      exact ⟨.list items, .list here spelled⟩
  | record =>
      obtain ⟨members, spelled⟩ := ends
      exact ⟨.record members, .record here spelled⟩

theorem ends_of_close (here : afterSpace text = bracket.close :: rest) :
    bracket.Ends first text rest := by
  cases bracket with
  | list => exact ⟨[], .noItem here⟩
  | record => exact ⟨[], .noMember here⟩

theorem ends_of_introduces {value : List UInt8} {tree : Tree}
    (introduced : Introduces first text next) (keyed : passKey bracket next = .ok value)
    (spelled : Spells (.value tree) value behind) (ends : bracket.Ends false behind rest) :
    bracket.Ends first text rest := by
  cases bracket with
  | list =>
      obtain ⟨items, items_spelled⟩ := ends
      obtain rfl : next = value := Except.ok.inj keyed
      exact ⟨tree :: items, .item introduced spelled items_spelled⟩
  | record =>
      obtain ⟨members, members_spelled⟩ := ends
      obtain ⟨key, colon, quoted, key_spelled, colon_spelled⟩ := passKey_record_eq_ok.mp keyed
      exact ⟨(key, tree) :: members,
        .member introduced quoted key_spelled colon_spelled spelled members_spelled⟩

theorem ends_of_first {value : List UInt8} {tree : Tree}
    (keyed : passKey bracket (afterSpace text) = .ok value)
    (spelled : Spells (.value tree) value behind) (ends : bracket.Ends false behind rest) :
    bracket.Ends true text rest := by
  have introduced : Introduces true text text := rfl
  cases bracket with
  | list =>
      obtain rfl : afterSpace text = value := Except.ok.inj keyed
      have spelled := spells_value_congr (afterSpace_afterSpace text) spelled
      exact ends_of_introduces introduced rfl spelled ends
  | record =>
      rw [passKey_afterSpace] at keyed
      exact ends_of_introduces introduced keyed spelled ends

end Bracket

theorem leads_of_passFrom {fuel : Nat} {spot : PassSpot} {brackets : List Bracket}
    {text rest : List UInt8} (passed : passFrom fuel spot brackets text = .ok rest) :
    spot.Leads brackets text rest := by
  -- The open brackets stay general, since a value is followed by what is left of those around it.
  induction fuel generalizing spot brackets text with
  | zero => contradiction
  | succ fuel ih =>
      cases spot with
      | value =>
          rw [passFrom] at passed
          split at passed
          · contradiction
          next bracket behind opened =>
            obtain ⟨after, ends, closes⟩ := ih passed
            rcases passOpening_cases opened with ⟨none, -⟩ | ⟨other, same, here⟩
            · contradiction
            · obtain rfl := Option.some.inj same
              obtain ⟨tree, spelled⟩ := Bracket.spells_of_ends here ends
              exact ⟨tree, after, spelled, closes⟩
          next behind opened =>
            rcases passOpening_cases opened with ⟨-, tree, spelled⟩ | ⟨bracket, same, -⟩
            · exact ⟨tree, behind, spelled, ih passed⟩
            · contradiction
      | after =>
          cases brackets with
          | nil => exact Except.ok.inj passed
          | cons bracket brackets =>
              rw [passFrom] at passed
              split at passed
              · contradiction
              next byte behind here =>
                split at passed
                next closing => exact ⟨behind, Bracket.ends_of_close (closing ▸ here), ih passed⟩
                split at passed
                next comma =>
                  subst comma
                  split at passed
                  · contradiction
                  next value keyed =>
                    obtain ⟨tree, after, spelled, behind', ends, closes⟩ := ih passed
                    have introduced : Introduces false text behind := here
                    have whole := Bracket.ends_of_introduces introduced keyed spelled ends
                    exact ⟨behind', whole, closes⟩
                next => contradiction
      | opened =>
          cases brackets with
          | nil => exact Except.ok.inj passed
          | cons bracket brackets =>
              rw [passFrom] at passed
              split at passed
              · contradiction
              next byte behind here =>
                split at passed
                next closing => exact ⟨behind, Bracket.ends_of_close (closing ▸ here), ih passed⟩
                split at passed
                · contradiction
                next value keyed =>
                  rw [← here] at keyed
                  obtain ⟨tree, after, spelled, behind', ends, closes⟩ := ih passed
                  exact ⟨behind', Bracket.ends_of_first keyed spelled ends, closes⟩

/-! What the grammar spells is passed over. -/

def Part.spot : Part → PassSpot
  | .value _ => .value
  | .items first _ => if first then .opened else .after
  | .members first _ => if first then .opened else .after

def Part.within : Part → List Bracket
  | .value _ => []
  | .items _ _ => [.list]
  | .members _ _ => [.record]

/-- The steps that a value saves: it opens within the byte that it begins with. -/
def Part.saved : Part → Nat
  | .value _ => 1
  | _ => 0

theorem passFrom_afterSpace (fuel : Nat) (brackets : List Bracket) (text : List UInt8) :
    passFrom fuel .value brackets (afterSpace text) = passFrom fuel .value brackets text := by
  cases fuel with
  | zero => rfl
  | succ fuel => rw [passFrom, passFrom, afterSpace_afterSpace]

theorem passFrom_of_passOpening {text rest : List UInt8}
    (opened : passOpening (afterSpace text) = .ok (none, rest)) (fuel : Nat)
    (brackets : List Bracket) :
    passFrom (fuel + 1) .value brackets text = passFrom fuel .after brackets rest := by
  rw [passFrom, opened]

theorem passFrom_opening {text rest : List UInt8} {bracket : Bracket}
    (here : afterSpace text = bracket.opening :: rest) (fuel : Nat) (brackets : List Bracket) :
    passFrom (fuel + 1) .value brackets text =
      passFrom fuel .opened (bracket :: brackets) rest := by
  rw [passFrom, here, passOpening_opening]

theorem passFrom_closing {text rest : List UInt8} {bracket : Bracket}
    (here : afterSpace text = bracket.close :: rest) (first : Bool) (fuel : Nat)
    (brackets : List Bracket) :
    passFrom (fuel + 1) (if first then .opened else .after) (bracket :: brackets) text =
      passFrom fuel .after brackets rest := by
  cases first with
  | true =>
      rw [if_pos rfl, passFrom, here]
      exact if_pos rfl
  | false =>
      rw [if_neg Bool.false_ne_true, passFrom, here]
      exact if_pos rfl

theorem passFrom_introduced {first : Bool} {text next behind value : List UInt8} {byte : UInt8}
    {bracket : Bracket} (introduced : Introduces first text next)
    (keyed : passKey bracket next = .ok value) (here : afterSpace next = byte :: behind)
    (other : byte ≠ bracket.close) (fuel : Nat) (brackets : List Bracket) :
    passFrom (fuel + 1) (if first then .opened else .after) (bracket :: brackets) text =
      passFrom fuel .value (bracket :: brackets) value := by
  cases first with
  | true =>
      obtain rfl : text = next := introduced
      rw [if_pos rfl, passFrom, here]
      dsimp only
      rw [if_neg other, ← here]
      cases bracket with
      | list =>
          obtain rfl : text = value := Except.ok.inj keyed
          exact passFrom_afterSpace fuel _ text
      | record => rw [passKey_afterSpace, keyed]
  | false =>
      have comma : afterSpace text = 0x2C :: next := introduced
      have notClosing : (0x2C : UInt8) ≠ bracket.close := by
        cases bracket with
        | list => decide
        | record => decide
      rw [if_neg Bool.false_ne_true, passFrom, comma]
      dsimp only
      rw [if_neg notClosing, if_pos rfl, keyed]

/-- Whether a part is passed over in at most two steps for each of its bytes. -/
def Part.Passes (part : Part) (text rest : List UInt8) : Prop :=
  ∃ steps, steps + part.saved + 2 * rest.length ≤ 2 * text.length ∧ ∀ fuel brackets,
    passFrom (fuel + steps) part.spot (part.within ++ brackets) text =
      passFrom fuel .after brackets rest

theorem passes_of_passOpening {tree : Tree} {text rest : List UInt8}
    (spells : Spells (.value tree) text rest)
    (opened : passOpening (afterSpace text) = .ok (none, rest)) :
    (Part.value tree).Passes text rest := by
  have shorter := spells.length
  refine ⟨1, ?_, passFrom_of_passOpening opened⟩
  simp only [Part.saved]
  omega

theorem passes_of_opening {tree : Tree} {part : Part} {text inner rest : List UInt8}
    {bracket : Bracket} (here : afterSpace text = bracket.opening :: inner)
    (opened : part.spot = .opened) (within : part.within = [bracket])
    (passes : part.Passes inner rest) : (Part.value tree).Passes text rest := by
  obtain ⟨steps, few, passed⟩ := passes
  have shorter := length_of_afterSpace here
  refine ⟨steps + 1, ?_, ?_⟩
  · simp only [Part.saved]
    omega
  · intro fuel brackets
    rw [opened, within] at passed
    exact (passFrom_opening here _ brackets).trans (passed fuel brackets)

theorem Spells.passes {part : Part} {text rest : List UInt8} (spells : Spells part text rest) :
    part.Passes text rest := by
  -- An item costs a step to introduce, which the comma pays for, or else the step that its value
  -- saves.
  induction spells with
  | @null text rest here =>
      have opened : passOpening (afterSpace text) = .ok (none, rest) := by
        rw [here]
        rfl
      exact passes_of_passOpening (.null here) opened
  | @boolean value text rest here =>
      have opened : passOpening (afterSpace text) = .ok (none, rest) := by
        rw [here]
        cases value with
        | true => rfl
        | false => rfl
      exact passes_of_passOpening (.boolean here) opened
  | number here => exact passes_of_passOpening (.number here) (passOpening_numeral here)
  | @text body text rest quoted here =>
      have opened : passOpening (afterSpace text) = .ok (none, rest) := by
        rw [here]
        exact passOpening_text quoted
      exact passes_of_passOpening (.text quoted here) opened
  | list here _ ih =>
      have here : afterSpace _ = Bracket.list.opening :: _ := here
      exact passes_of_opening here rfl rfl ih
  | record here _ ih =>
      have here : afterSpace _ = Bracket.record.opening :: _ := here
      exact passes_of_opening here rfl rfl ih
  | noItem here =>
      have shorter := length_of_afterSpace here
      have here : afterSpace _ = Bracket.list.close :: _ := here
      exact ⟨1, by simp only [Part.saved]; omega, passFrom_closing here _⟩
  | @item first item items text next behind rest here value_spelled _ value_ih items_ih =>
      obtain ⟨value_steps, value_few, value_passed⟩ := value_ih
      obtain ⟨steps, few, passed⟩ := items_ih
      have introduced := here.length
      obtain ⟨byte, more, first_spelled, starts⟩ := value_spelled.starts
      have other : byte ≠ 0x5D := (Tree.ne_of_startsWith starts).2.1
      simp only [Part.saved] at few value_few
      refine ⟨steps + value_steps + 1, by simp only [Part.saved]; omega, ?_⟩
      intro fuel brackets
      have item_keyed : passKey .list next = .ok next := rfl
      have keyed := passFrom_introduced here item_keyed first_spelled other
        (fuel + steps + value_steps) brackets
      have value := value_passed (fuel + steps) (.list :: brackets)
      rw [← Nat.add_assoc, ← Nat.add_assoc]
      exact keyed.trans (value.trans (passed fuel brackets))
  | noMember here =>
      have shorter := length_of_afterSpace here
      have here : afterSpace _ = Bracket.record.close :: _ := here
      exact ⟨1, by simp only [Part.saved]; omega, passFrom_closing here _⟩
  | member here quoted key_spelled colon_spelled _ _ value_ih members_ih =>
      obtain ⟨value_steps, value_few, value_passed⟩ := value_ih
      obtain ⟨steps, few, passed⟩ := members_ih
      have shorter := length_of_value here key_spelled colon_spelled
      simp only [Part.saved] at few value_few
      refine ⟨steps + value_steps + 1, by simp only [Part.saved]; omega, ?_⟩
      intro fuel brackets
      have key_keyed := passKey_record_eq_ok.mpr ⟨_, _, quoted, key_spelled, colon_spelled⟩
      have keyed := passFrom_introduced here key_keyed key_spelled (by decide)
        (fuel + steps + value_steps) brackets
      have value := value_passed (fuel + steps) (.record :: brackets)
      rw [← Nat.add_assoc, ← Nat.add_assoc]
      exact keyed.trans (value.trans (passed fuel brackets))

theorem passValue_eq_ok {text rest : List UInt8} :
    passValue text = .ok ((), rest) ↔ ∃ tree, Spells (.value tree) text rest := by
  constructor
  · intro passed
    unfold passValue at passed
    split at passed
    · contradiction
    next behind passed' =>
      obtain ⟨-, rfl⟩ := Prod.mk.inj (Except.ok.inj passed)
      obtain ⟨tree, after, spelled, rfl⟩ := leads_of_passFrom passed'
      exact ⟨tree, spelled⟩
  · rintro ⟨tree, spells⟩
    obtain ⟨steps, few, passed⟩ := spells.passes
    obtain ⟨fuel, enough⟩ : ∃ fuel, 2 * text.length + 2 = fuel + 1 + steps := by
      simp only [Part.saved] at few
      exact ⟨2 * text.length + 1 - steps, by omega⟩
    have whole : passFrom (2 * text.length + 2) .value [] text = .ok rest := by
      rw [enough]
      exact passed (fuel + 1) []
    rw [passValue, whole]

end Accounts.Json
