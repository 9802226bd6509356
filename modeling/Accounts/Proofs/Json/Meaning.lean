import Accounts.Json.Collections
import Accounts.Proofs.Json.Passing

/-! What values of the grammar mean, and that the readers read exactly the values that mean
something of the type they are for. -/

namespace Accounts.Json

variable {α : Type}

def Sound (reader : Reader α) (meaning : Tree → α → Prop) : Prop :=
  ∀ text value rest, reader text = .ok (value, rest) →
    ∃ tree, Spells (.value tree) text rest ∧ meaning tree value

def Complete (reader : Reader α) (meaning : Tree → α → Prop) : Prop :=
  ∀ text tree value rest, Spells (.value tree) text rest → meaning tree value →
    reader text = .ok (value, rest)

structure Exact (reader : Reader α) (meaning : Tree → α → Prop) : Prop where
  sound : Sound reader meaning
  complete : Complete reader meaning

theorem readAll_eq_ok {reader : Reader α} {meaning : Tree → α → Prop}
    (exact_reader : Exact reader meaning) {text : List UInt8} {value : α} :
    readAll reader text = .ok value ↔ ∃ tree, IsDocument tree text ∧ meaning tree value := by
  constructor
  · intro read
    unfold readAll at read
    split at read
    · contradiction
    next found rest started =>
      split at read
      next spaces =>
        obtain rfl := Except.ok.inj read
        obtain ⟨tree, spelled, means⟩ := exact_reader.sound _ _ _ started
        exact ⟨tree, ⟨rest, spelled, spaces⟩, means⟩
      next => contradiction
  · rintro ⟨tree, ⟨rest, spelled, spaces⟩, means⟩
    rw [readAll, exact_reader.complete _ _ _ _ spelled means]
    exact if_pos spaces

/-! Scalars. -/

def IsText : Tree → String → Prop
  | .text body, value => Says body value
  | _, _ => False

def IsInteger : Tree → Int → Prop
  | .number n, value => n.integer? = some value
  | _, _ => False

def IsOptional (meaning : Tree → α → Prop) (tree : Tree) (value : Option α) : Prop :=
  (tree = .null ∧ value = none) ∨ (tree ≠ .null ∧ ∃ present, value = some present ∧
    meaning tree present)

theorem otherType_ne_ok {text : List UInt8} {result : α × List UInt8} :
    otherType text ≠ .ok result := by
  intro read
  obtain ⟨value, rest⟩ := result
  have refused : ∀ {β : Type} {reader : Reader β} {text : List UInt8},
      (reader *> (refuse .mismatched : Reader α)) text ≠ .ok (value, rest) := by
    intro β reader text read
    obtain ⟨first, middle, -, refused⟩ := seqRight_eq_ok.mp read
    contradiction
  unfold otherType at read
  split at read
  · contradiction
  split at read
  · exact refused read
  split at read
  · exact refused read
  split at read
  · exact refused read
  split at read
  · exact refused read
  split at read
  · exact refused read
  split at read
  · contradiction
  · contradiction

theorem text_exact : Exact text IsText where
  sound := by
    intro input value rest read
    unfold text at read
    split at read
    next behind here =>
      obtain ⟨body, said, rfl⟩ := stringTail_eq_ok.mp read
      exact ⟨.text body, .text (.of_denotes said) here, said⟩
    next => exact absurd read otherType_ne_ok
  complete := by
    intro input tree value rest spells means
    cases spells with
    | text quoted here =>
        rw [text, here]
        exact stringTail_eq_ok.mpr ⟨_, means, rfl⟩
    | _ => contradiction

theorem finite_of_integer? {n : Numeral} {value : Int} (whole : n.integer? = some value) :
    n.finite = true := by
  -- All digits go into the significand, and so nothing is rounded or scaled.
  obtain ⟨found, -⟩ := Option.filter_eq_some_iff.mp whole
  unfold Numeral.wholeNumber? at found
  split at found
  next noFraction noExponent =>
    split at found
    · contradiction
    next =>
      have fits : ofDigits n.whole ≤ 0xFFFFFFFFFFFFFFFF := by
        dsimp only at found
        split at found
        · split at found
          next bounds => omega
          next => contradiction
        · split at found
          next bound => exact bound
          next => contradiction
      have appended : appendDigits 0 0 n.whole = _ := appendDigits_eq 0 0 fits
      have significand : n.significand = (ofDigits n.whole, 0) := by
        rw [Numeral.significand, appended, noFraction]
        simp [appendDigits, ofDigits]
      have unscaled : n.power = 0 := by
        rw [Numeral.power, noExponent]
      rw [Numeral.finite, Numeral.double?, significand, unscaled]
      rfl
  next => contradiction

theorem integer_exact : Exact integer IsInteger where
  sound := by
    intro input value rest read
    unfold integer at read
    split at read
    · contradiction
    next byte behind here =>
      split at read
      next starts =>
        split at read
        · contradiction
        next n after numeral_read =>
          split at read
          next whole =>
            obtain ⟨rfl, rfl⟩ := Prod.mk.inj (Except.ok.inj read)
            obtain ⟨n', middle, started, checked⟩ := bind_eq_ok.mp numeral_read
            split at checked
            next =>
              obtain ⟨rfl, rfl⟩ := Prod.mk.inj (Except.ok.inj checked)
              exact ⟨.number n', .number (here ▸ numeral_eq_ok.mp started), whole⟩
            next => contradiction
          next => contradiction
      next => exact absurd read otherType_ne_ok
  complete := by
    intro input tree value rest spells means
    cases spells with
    | @number n _ _ here =>
        have whole : n.integer? = some value := means
        have finite := finite_of_integer? whole
        have read : finiteNumeral (afterSpace input) = .ok (n, rest) := by
          rw [finiteNumeral, bind_of_ok (numeral_eq_ok.mpr here), if_pos finite]
          rfl
        obtain ⟨first, more, same, starts⟩ := here.starts
        rw [same] at read
        rw [integer, same]
        simp only [if_pos starts, read, whole]
    | _ => contradiction

theorem optional_exact {reader : Reader α} {meaning : Tree → α → Prop}
    (exact_reader : Exact reader meaning) : Exact (optional reader) (IsOptional meaning) where
  sound := by
    intro input value rest read
    unfold optional at read
    split at read
    next behind here =>
      obtain ⟨⟨⟩, middle, passed, read⟩ := seqRight_eq_ok.mp read
      obtain ⟨rfl, rfl⟩ := Prod.mk.inj (Except.ok.inj read)
      rw [word_eq_ok.mp passed] at here
      exact ⟨.null, .null here, .inl ⟨rfl, rfl⟩⟩
    next notNull =>
      obtain ⟨present, present_read, rfl⟩ := map_eq_ok.mp read
      obtain ⟨tree, spelled, means⟩ := exact_reader.sound _ _ _ present_read
      have spelled := spells_value_congr (afterSpace_afterSpace input) spelled
      refine ⟨tree, spelled, .inr ⟨?_, present, rfl, means⟩⟩
      rintro rfl
      cases spelled with
      | null here => exact notNull _ here
  complete := by
    intro input tree value rest spells means
    rcases means with ⟨rfl, rfl⟩ | ⟨notNull, present, rfl, means⟩
    · cases spells with
      | null here =>
          rw [optional, here]
          exact seqRight_of_ok (word_eq_ok.mpr rfl)
    · have read := exact_reader.complete _ _ _ _
        (spells_value_congr (afterSpace_afterSpace input).symm spells) means
      unfold optional
      split
      next behind here =>
        exact absurd (Tree.eq_null_of_startsWith (spells.startsWith here)) notNull
      next => exact map_of_ok some read

/-! Lists. -/

def IsListOf (meaning : Tree → α → Prop) : Tree → List α → Prop
  | .list items, values => List.Forall₂ meaning items values
  | _, _ => False

theorem moreItems_false {first : Bool} {text rest : List UInt8} :
    moreItems first text = .ok (false, rest) ↔
      rest = afterSpace text ∧ ∃ behind, afterSpace text = 0x5D :: behind := by
  unfold moreItems
  constructor
  · intro read
    split at read
    · contradiction
    next byte behind here =>
      rw [here]
      split at read
      next closing =>
        obtain ⟨-, rfl⟩ := Prod.mk.inj (Except.ok.inj read)
        exact ⟨rfl, behind, closing ▸ rfl⟩
      split at read
      · exact absurd (Prod.mk.inj (Except.ok.inj read)).1 (by decide)
      split at read
      next =>
        split at read
        · contradiction
        split at read
        · contradiction
        · exact absurd (Prod.mk.inj (Except.ok.inj read)).1 (by decide)
      next => contradiction
  · rintro ⟨rfl, behind, here⟩
    rw [here]
    rfl

theorem introduces_of_moreItems {first : Bool} {text rest : List UInt8}
    (read : moreItems first text = .ok (true, rest)) :
    ∃ next, Introduces first text next ∧ rest = afterSpace next := by
  unfold moreItems at read
  split at read
  · contradiction
  next byte behind here =>
    split at read
    · exact absurd (Prod.mk.inj (Except.ok.inj read)).1 (by decide)
    split at read
    next isFirst =>
      obtain ⟨-, rfl⟩ := Prod.mk.inj (Except.ok.inj read)
      exact ⟨text, by rw [Introduces, if_pos isFirst], here.symm⟩
    next later =>
      split at read
      next comma =>
        split at read
        · contradiction
        next next more spaced =>
          split at read
          · contradiction
          next =>
            obtain ⟨-, rfl⟩ := Prod.mk.inj (Except.ok.inj read)
            refine ⟨behind, ?_, spaced.symm⟩
            rw [Introduces, if_neg later, here, comma]
      next => contradiction

theorem moreItems_of_introduces {first : Bool} {text next rest : List UInt8} {item : Tree}
    (introduced : Introduces first text next) (spelled : Spells (.value item) next rest) :
    moreItems first text = .ok (true, afterSpace next) := by
  obtain ⟨byte, behind, here, starts⟩ := spelled.starts
  have other : byte ≠ 0x5D := (Tree.ne_of_startsWith starts).2.1
  cases first with
  | true =>
      obtain rfl : text = next := introduced
      rw [moreItems, here]
      dsimp only
      rw [if_neg other, if_pos rfl]
  | false =>
      have comma : afterSpace text = 0x2C :: next := introduced
      rw [moreItems, comma]
      dsimp only
      rw [if_neg (by decide), if_neg Bool.false_ne_true, if_pos rfl, here]
      exact if_neg other

theorem spells_of_itemsFrom {reader : Reader α} {meaning : Tree → α → Prop}
    (sound : Sound reader meaning) {first : Bool} {done values : List α} {fuel : Nat}
    {text rest : List UInt8} (read : itemsFrom reader first done fuel text = .ok (values, rest)) :
    ∃ items later, Spells (.items first items) text rest ∧ List.Forall₂ meaning items later ∧
      values = done.reverse ++ later := by
  induction fuel generalizing first done text with
  | zero => contradiction
  | succ fuel ih =>
      simp only [itemsFrom] at read
      split at read
      · contradiction
      next closed more =>
        obtain ⟨rfl, behind, here⟩ := moreItems_false.mp more
        obtain ⟨⟨⟩, middle, closing, read⟩ := seqRight_eq_ok.mp read
        obtain ⟨rfl, rfl⟩ := Prod.mk.inj (Except.ok.inj read)
        have closing := mark_eq_ok.mp closing
        rw [afterSpace_afterSpace] at closing
        exact ⟨[], [], .noItem closing, .nil, (List.append_nil _).symm⟩
      next opened more =>
        obtain ⟨next, introduced, rfl⟩ := introduces_of_moreItems more
        split at read
        · contradiction
        next value behind item_read =>
          obtain ⟨tree, spelled, means⟩ := sound _ _ _ item_read
          have spelled := spells_value_congr (afterSpace_afterSpace next) spelled
          obtain ⟨items, later, items_spelled, mean, rfl⟩ := ih read
          refine ⟨tree :: items, value :: later, .item introduced spelled items_spelled,
            .cons means mean, ?_⟩
          rw [List.reverse_cons, List.append_assoc]
          rfl

theorem itemsFrom_of_spells {reader : Reader α} {meaning : Tree → α → Prop}
    (complete : Complete reader meaning) {first : Bool} {items : List Tree} {done later : List α}
    {fuel : Nat} {text rest : List UInt8} (spells : Spells (.items first items) text rest)
    (mean : List.Forall₂ meaning items later) (enough : text.length < fuel) :
    itemsFrom reader first done fuel text = .ok (done.reverse ++ later, rest) := by
  -- Each item takes a byte at least, so that the fuel lasts.
  induction mean generalizing first done fuel text with
  | nil =>
      obtain ⟨fuel, rfl⟩ := Nat.exists_eq_add_one_of_ne_zero (Nat.ne_zero_of_lt enough)
      cases spells with
      | noItem here =>
          have more : moreItems first text = .ok (false, afterSpace text) :=
            moreItems_false.mpr ⟨rfl, rest, here⟩
          have closing : mark 0x5D (afterSpace text) = .ok ((), rest) :=
            mark_eq_ok.mpr ((afterSpace_afterSpace text).trans here)
          simp only [itemsFrom, more]
          rw [seqRight_of_ok closing, List.append_nil]
          rfl
  | @cons tree value items later means mean ih =>
      obtain ⟨fuel, rfl⟩ := Nat.exists_eq_add_one_of_ne_zero (Nat.ne_zero_of_lt enough)
      obtain ⟨next, behind, introduced, spelled, items_spelled⟩ := spells_items_cons spells
      have more := moreItems_of_introduces introduced spelled
      have read := complete _ _ _ _
        (spells_value_congr (afterSpace_afterSpace next).symm spelled) means
      have shorter := Nat.lt_of_lt_of_le spelled.length introduced.length
      simp only [itemsFrom, more, read]
      rw [ih items_spelled (by omega), List.reverse_cons, List.append_assoc]
      rfl

theorem listOf_exact {reader : Reader α} {meaning : Tree → α → Prop}
    (exact_reader : Exact reader meaning) : Exact (listOf reader) (IsListOf meaning) where
  sound := by
    intro input value rest read
    unfold listOf at read
    split at read
    next behind here =>
      obtain ⟨items, later, spelled, mean, rfl⟩ := spells_of_itemsFrom exact_reader.sound read
      exact ⟨.list items, .list here spelled, mean⟩
    next => exact absurd read otherType_ne_ok
  complete := by
    intro input tree value rest spells means
    cases spells with
    | list here spelled =>
        rw [listOf, here]
        exact itemsFrom_of_spells exact_reader.complete spelled means (Nat.lt_succ_self _)
    | _ => contradiction

/-! Members of any names. -/

def IsEntry (meaning : Tree → α → Prop) (member : List UInt8 × Tree) (entry : String × α) : Prop :=
  Says member.1 entry.1 ∧ meaning member.2 entry.2

theorem moreMembers_false {first : Bool} {text rest : List UInt8} :
    moreMembers first text = .ok (false, rest) ↔
      rest = afterSpace text ∧ ∃ behind, afterSpace text = 0x7D :: behind := by
  unfold moreMembers
  constructor
  · intro read
    split at read
    · contradiction
    next byte behind here =>
      rw [here]
      split at read
      next closing =>
        obtain ⟨-, rfl⟩ := Prod.mk.inj (Except.ok.inj read)
        exact ⟨rfl, behind, closing ▸ rfl⟩
      split at read
      · split at read
        · exact absurd (Prod.mk.inj (Except.ok.inj read)).1 (by decide)
        · contradiction
      split at read
      next =>
        split at read
        · contradiction
        split at read
        · exact absurd (Prod.mk.inj (Except.ok.inj read)).1 (by decide)
        · contradiction
      next => contradiction
  · rintro ⟨rfl, behind, here⟩
    rw [here]
    rfl

theorem moreMembers_true {first : Bool} {text rest : List UInt8} :
    moreMembers first text = .ok (true, rest) ↔
      ∃ next, Introduces first text next ∧ afterSpace next = 0x22 :: rest := by
  constructor
  · intro read
    unfold moreMembers at read
    split at read
    · contradiction
    next byte behind here =>
      split at read
      · exact absurd (Prod.mk.inj (Except.ok.inj read)).1 (by decide)
      split at read
      next isFirst =>
        split at read
        next quote =>
          obtain ⟨-, rfl⟩ := Prod.mk.inj (Except.ok.inj read)
          exact ⟨text, by rw [Introduces, if_pos isFirst], quote ▸ here⟩
        next => contradiction
      next later =>
        split at read
        next comma =>
          split at read
          · contradiction
          next next more spaced =>
            split at read
            next quote =>
              obtain ⟨-, rfl⟩ := Prod.mk.inj (Except.ok.inj read)
              refine ⟨behind, ?_, quote ▸ spaced⟩
              rw [Introduces, if_neg later, here, comma]
            next => contradiction
        next => contradiction
  · rintro ⟨next, introduced, quote⟩
    cases first with
    | true =>
        obtain rfl : text = next := introduced
        rw [moreMembers, quote]
        rfl
    | false =>
        have comma : afterSpace text = 0x2C :: next := introduced
        rw [moreMembers, comma]
        dsimp only
        rw [if_neg (by decide), if_neg Bool.false_ne_true, if_pos rfl, quote]
        rfl

theorem memberTail_eq_ok {reader : Reader α} {text rest : List UInt8} {key : String} {value : α} :
    (do let key ← stringTail; mark 0x3A; let value ← reader; pure (key, value) :
      Reader (String × α)) text = .ok ((key, value), rest) ↔
      ∃ body colon middle, Says body key ∧ text = body ++ 0x22 :: colon ∧
        afterSpace colon = 0x3A :: middle ∧ reader middle = .ok (value, rest) := by
  constructor
  · intro read
    obtain ⟨key', colon, key_read, read⟩ := bind_eq_ok.mp read
    obtain ⟨⟨⟩, middle, marked, read⟩ := bind_eq_ok.mp read
    obtain ⟨value', behind, value_read, read⟩ := bind_eq_ok.mp read
    obtain ⟨same, rfl⟩ := Prod.mk.inj (Except.ok.inj read)
    obtain ⟨rfl, rfl⟩ := Prod.mk.inj same
    obtain ⟨body, said, rfl⟩ := stringTail_eq_ok.mp key_read
    exact ⟨body, colon, middle, said, rfl, mark_eq_ok.mp marked, value_read⟩
  · rintro ⟨body, colon, middle, said, rfl, marked, value_read⟩
    rw [bind_of_ok (stringTail_eq_ok.mpr ⟨body, said, rfl⟩), bind_of_ok (mark_eq_ok.mpr marked),
      bind_of_ok value_read]
    rfl

theorem spells_of_entriesFrom {reader : Reader α} {meaning : Tree → α → Prop}
    (sound : Sound reader meaning) {first : Bool} {done entries : List (String × α)} {fuel : Nat}
    {text rest : List UInt8}
    (read : entriesFrom reader first done fuel text = .ok (entries, rest)) :
    ∃ members later, Spells (.members first members) text rest ∧
      List.Forall₂ (IsEntry meaning) members later ∧ entries = done.reverse ++ later := by
  induction fuel generalizing first done text with
  | zero => contradiction
  | succ fuel ih =>
      simp only [entriesFrom] at read
      split at read
      · contradiction
      next closed more =>
        obtain ⟨rfl, behind, here⟩ := moreMembers_false.mp more
        obtain ⟨⟨⟩, middle, closing, read⟩ := seqRight_eq_ok.mp read
        obtain ⟨rfl, rfl⟩ := Prod.mk.inj (Except.ok.inj read)
        have closing := mark_eq_ok.mp closing
        rw [afterSpace_afterSpace] at closing
        exact ⟨[], [], .noMember closing, .nil, (List.append_nil _).symm⟩
      next opened more =>
        obtain ⟨next, introduced, quote⟩ := moreMembers_true.mp more
        split at read
        · contradiction
        next entry behind entry_read =>
          obtain ⟨key, value⟩ := entry
          obtain ⟨body, colon, middle, said, rfl, marked, value_read⟩ :=
            memberTail_eq_ok.mp entry_read
          obtain ⟨tree, spelled, means⟩ := sound _ _ _ value_read
          obtain ⟨members, later, members_spelled, mean, rfl⟩ := ih read
          refine ⟨(body, tree) :: members, (key, value) :: later, .member introduced
            (.of_denotes said) quote marked spelled members_spelled,
            .cons ⟨said, means⟩ mean, ?_⟩
          rw [List.reverse_cons, List.append_assoc]
          rfl

theorem noMember_closes (first : Bool) {text rest : List UInt8}
    (here : afterSpace text = 0x7D :: rest) :
    moreMembers first text = .ok (false, afterSpace text) ∧
      mark 0x7D (afterSpace text) = .ok ((), rest) :=
  ⟨moreMembers_false.mpr ⟨rfl, rest, here⟩,
    mark_eq_ok.mpr ((afterSpace_afterSpace text).trans here)⟩

theorem entriesFrom_of_spells {reader : Reader α} {meaning : Tree → α → Prop}
    (complete : Complete reader meaning) {first : Bool} {members : List (List UInt8 × Tree)}
    {done later : List (String × α)} {fuel : Nat} {text rest : List UInt8}
    (spells : Spells (.members first members) text rest)
    (mean : List.Forall₂ (IsEntry meaning) members later) (enough : text.length < fuel) :
    entriesFrom reader first done fuel text = .ok (done.reverse ++ later, rest) := by
  induction mean generalizing first done fuel text with
  | nil =>
      obtain ⟨fuel, rfl⟩ := Nat.exists_eq_add_one_of_ne_zero (Nat.ne_zero_of_lt enough)
      cases spells with
      | noMember here =>
          obtain ⟨more, closing⟩ := noMember_closes first here
          simp only [entriesFrom, more]
          rw [seqRight_of_ok closing, List.append_nil]
          rfl
  | @cons member entry members later means mean ih =>
      obtain ⟨fuel, rfl⟩ := Nat.exists_eq_add_one_of_ne_zero (Nat.ne_zero_of_lt enough)
      obtain ⟨key, value⟩ := entry
      obtain ⟨said, means⟩ := means
      obtain ⟨next, colon, middle, behind, introduced, -, quote, marked, spelled,
        rest_spelled⟩ := spells_members_cons spells
      have more := moreMembers_true.mpr ⟨next, introduced, quote⟩
      have read := memberTail_eq_ok.mpr
        ⟨_, colon, middle, said, rfl, marked, complete _ _ _ _ spelled means⟩
      have shorter := Nat.lt_trans spelled.length (length_of_value introduced quote marked)
      simp only [entriesFrom, more, read]
      rw [ih rest_spelled (by omega), List.reverse_cons, List.append_assoc]
      rfl

/-! Values that are kept whole. -/

def IsValueWith (inner : Option (Tree → Value → Prop)) : Tree → Value → Prop
  | .null, value => value = .null
  | .boolean given, value => value = .boolean given
  | .number n, value => n.value? = some value
  | .text body, value => ∃ said, value = .text said ∧ Says body said
  | .list items, value => ∃ nested values, inner = some nested ∧ value = .list values ∧
    List.Forall₂ nested items values
  | .record members, value => ∃ nested entries, inner = some nested ∧ value = .record entries ∧
    List.Forall₂ (IsEntry nested) members entries

def IsValue : Nat → Tree → Value → Prop
  | 0 => IsValueWith none
  | depth + 1 => IsValueWith (some (IsValue depth))

theorem number_eq_ok {text rest : List UInt8} {value : Value} :
    number text = .ok (value, rest) ↔
      ∃ n, SpellsNumeral n text rest ∧ n.value? = some value := by
  rw [number, bind_eq_ok]
  constructor
  · rintro ⟨n, middle, read, chosen⟩
    cases finite : n.value? with
    | none =>
        rw [finite] at chosen
        contradiction
    | some found =>
        rw [finite] at chosen
        obtain ⟨rfl, rfl⟩ := Prod.mk.inj (Except.ok.inj chosen)
        exact ⟨n, numeral_eq_ok.mp read, finite⟩
  · rintro ⟨n, spelled, finite⟩
    refine ⟨n, rest, numeral_eq_ok.mpr spelled, ?_⟩
    rw [finite]
    rfl

theorem valueWith_sound {inner : Option (Reader Value)} {nested : Option (Tree → Value → Prop)}
    (sound : ∀ reader ∈ inner, ∃ meaning, nested = some meaning ∧ Sound reader meaning) :
    Sound (valueWith inner) (IsValueWith nested) := by
  intro input value rest read
  have of_word : ∀ {letters behind : List UInt8} {kept : Value},
      (word letters *> (pure kept : Reader Value)) behind = .ok (value, rest) →
      behind = letters ++ rest ∧ value = kept := by
    intro letters behind kept read
    obtain ⟨⟨⟩, middle, passed, read⟩ := seqRight_eq_ok.mp read
    obtain ⟨rfl, rfl⟩ := Prod.mk.inj (Except.ok.inj read)
    exact ⟨word_eq_ok.mp passed, rfl⟩
  unfold valueWith at read
  split at read
  · contradiction
  next byte behind here =>
    split at read
    next same =>
      obtain ⟨rfl, kept⟩ := of_word read
      exact ⟨.null, .null (same ▸ here), kept⟩
    split at read
    next same =>
      obtain ⟨rfl, kept⟩ := of_word read
      exact ⟨.boolean true, .boolean (by rw [here, same]; rfl), kept⟩
    split at read
    next same =>
      obtain ⟨rfl, kept⟩ := of_word read
      exact ⟨.boolean false, .boolean (by rw [here, same]; rfl), kept⟩
    split at read
    next =>
      obtain ⟨n, spelled, finite⟩ := number_eq_ok.mp read
      exact ⟨.number n, .number (here ▸ spelled), finite⟩
    split at read
    next same =>
      obtain ⟨said, text_read, rfl⟩ := map_eq_ok.mp read
      obtain ⟨body, denotes, rfl⟩ := stringTail_eq_ok.mp text_read
      exact ⟨.text body, .text (.of_denotes denotes) (same ▸ here), said, rfl, denotes⟩
    split at read
    · contradiction
    next reader =>
      obtain ⟨meaning, rfl, sound_nested⟩ := sound reader rfl
      split at read
      next same =>
        obtain ⟨values, items_read, rfl⟩ := map_eq_ok.mp read
        obtain ⟨items, later, spelled, mean, rfl⟩ := spells_of_itemsFrom sound_nested items_read
        exact ⟨.list items, .list (same ▸ here) spelled, meaning, _, rfl, rfl, mean⟩
      split at read
      next same =>
        obtain ⟨entries, members_read, rfl⟩ := map_eq_ok.mp read
        obtain ⟨members, later, spelled, mean, rfl⟩ :=
          spells_of_entriesFrom sound_nested members_read
        exact ⟨.record members, .record (same ▸ here) spelled, meaning, _, rfl, rfl, mean⟩
      next => contradiction

theorem valueWith_complete {inner : Option (Reader Value)}
    {nested : Option (Tree → Value → Prop)}
    (complete : ∀ meaning ∈ nested, ∃ reader, inner = some reader ∧ Complete reader meaning) :
    Complete (valueWith inner) (IsValueWith nested) := by
  intro input tree value rest spells means
  cases spells with
  | null here =>
      obtain rfl : value = .null := means
      rw [valueWith, here]
      exact seqRight_of_ok (word_eq_ok.mpr rfl)
  | @boolean given _ _ here =>
      obtain rfl : value = .boolean given := means
      cases given with
      | true =>
          rw [valueWith, here]
          exact seqRight_of_ok (word_eq_ok.mpr rfl)
      | false =>
          rw [valueWith, here]
          exact seqRight_of_ok (word_eq_ok.mpr rfl)
  | number here =>
      have read := number_eq_ok.mpr ⟨_, here, means⟩
      obtain ⟨first, more, same, starts⟩ := here.starts
      have notNull : first ≠ 0x6E := ne_of_startsNumeral starts rfl
      have notTrue : first ≠ 0x74 := ne_of_startsNumeral starts rfl
      have notFalse : first ≠ 0x66 := ne_of_startsNumeral starts rfl
      rw [same] at read
      rw [valueWith, same]
      dsimp only
      rw [if_neg notNull, if_neg notTrue, if_neg notFalse, if_pos starts, read]
  | text quoted here =>
      obtain ⟨said, rfl, denotes⟩ := means
      rw [valueWith, here]
      exact map_of_ok Value.text (stringTail_eq_ok.mpr ⟨_, denotes, rfl⟩)
  | list here spelled =>
      obtain ⟨meaning, values, rfl, rfl, mean⟩ := means
      obtain ⟨reader, rfl, complete_nested⟩ := complete meaning rfl
      rw [valueWith, here]
      exact map_of_ok Value.list
        (itemsFrom_of_spells complete_nested spelled mean (Nat.lt_succ_self _))
  | record here spelled =>
      obtain ⟨meaning, entries, rfl, rfl, mean⟩ := means
      obtain ⟨reader, rfl, complete_nested⟩ := complete meaning rfl
      rw [valueWith, here]
      exact map_of_ok Value.record
        (entriesFrom_of_spells complete_nested spelled mean (Nat.lt_succ_self _))

theorem value_exact (depth : Nat) : Exact (value depth) (IsValue depth) := by
  induction depth with
  | zero => exact ⟨valueWith_sound nofun, valueWith_complete nofun⟩
  | succ depth ih =>
      constructor
      · apply valueWith_sound
        rintro reader ⟨⟩
        exact ⟨_, rfl, ih.sound⟩
      · apply valueWith_complete
        rintro meaning ⟨⟩
        exact ⟨_, rfl, ih.complete⟩

/-! What is kept of a value tells what it is. -/

theorem isValueWith_of_isValue {depth : Nat} {tree : Tree} {kept : Value}
    (means : IsValue depth tree kept) : ∃ nested, IsValueWith nested tree kept := by
  cases depth with
  | zero => exact ⟨none, means⟩
  | succ depth => exact ⟨some (IsValue depth), means⟩

theorem Numeral.value?_eq_some {n : Numeral} {kept : Value} (found : n.value? = some kept) :
    (∃ value, n.wholeNumber? = some value ∧ kept = .integer value) ∨
      ∃ value, kept = .fraction value := by
  unfold Numeral.value? at found
  split at found
  next value whole => exact .inl ⟨value, whole, (Option.some.inj found).symm⟩
  next =>
    obtain ⟨value, -, rfl⟩ := Option.map_eq_some_iff.mp found
    exact .inr ⟨value, rfl⟩

theorem isText_of_isValue {depth : Nat} {tree : Tree} {said : String}
    (means : IsValue depth tree (.text said)) : IsText tree said := by
  obtain ⟨nested, means⟩ := isValueWith_of_isValue means
  cases tree with
  | text body =>
      obtain ⟨other, same, denotes⟩ := means
      obtain rfl := Value.text.inj same
      exact denotes
  | number n =>
      rcases Numeral.value?_eq_some means with ⟨_, -, same⟩ | ⟨_, same⟩
      · contradiction
      · contradiction
  | null => exact Value.noConfusion means
  | boolean given => exact Value.noConfusion means
  | list items =>
      obtain ⟨_, _, -, same, -⟩ := means
      contradiction
  | record members =>
      obtain ⟨_, _, -, same, -⟩ := means
      contradiction

theorem isInteger_of_isValue {depth : Nat} {tree : Tree} {value : Int}
    (means : IsValue depth tree (.integer value)) (most : value < 0x8000000000000000) :
    IsInteger tree value := by
  obtain ⟨nested, means⟩ := isValueWith_of_isValue means
  cases tree with
  | number n =>
      rcases Numeral.value?_eq_some means with ⟨found, whole, same⟩ | ⟨_, same⟩
      · obtain rfl := Value.integer.inj same
        exact Option.filter_eq_some_iff.mpr ⟨whole, decide_eq_true most⟩
      · contradiction
  | null => exact Value.noConfusion means
  | boolean given => exact Value.noConfusion means
  | text body =>
      obtain ⟨_, same, -⟩ := means
      contradiction
  | list items =>
      obtain ⟨_, _, -, same, -⟩ := means
      contradiction
  | record members =>
      obtain ⟨_, _, -, same, -⟩ := means
      contradiction

theorem record_of_isValue {depth : Nat} {tree : Tree} {entries : List (String × Value)}
    (means : IsValue (depth + 1) tree (.record entries)) : ∃ members, tree = .record members ∧
      List.Forall₂ (IsEntry (IsValue depth)) members entries := by
  cases tree with
  | record members =>
      obtain ⟨nested, kept, same, same_entries, mean⟩ := means
      obtain rfl := Option.some.inj same
      obtain rfl := Value.record.inj same_entries
      exact ⟨members, rfl, mean⟩
  | number n =>
      rcases Numeral.value?_eq_some means with ⟨_, -, same⟩ | ⟨_, same⟩
      · contradiction
      · contradiction
  | null => exact Value.noConfusion means
  | boolean given => exact Value.noConfusion means
  | text body =>
      obtain ⟨_, same, -⟩ := means
      contradiction
  | list items =>
      obtain ⟨_, _, -, same, -⟩ := means
      contradiction

end Accounts.Json
