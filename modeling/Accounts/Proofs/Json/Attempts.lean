import Accounts.Proofs.Json.Depth
import Accounts.Proofs.Json.Meaning

/-! Where reading goes on behind an attempt at a value. Behind one that succeeds it is the end of
the value. Behind one that fails it may be a place in the midst of it, which is deeper within lists
and records, or within a string, or where nothing goes on at all. -/

namespace Accounts.Json

variable {α : Type} {left text rest behind : List UInt8} {depth : Nat}

def Near (left : List UInt8) (depth : Nat) (text : List UInt8) : Prop :=
  (∃ deeper, depth ≤ deeper ∧ Outside left deeper text) ∨ ∃ other, Within left other text

def Stuck (text : List UInt8) : Prop :=
  ∀ byte ∈ (afterSpace text).head?, byte ≠ 0x2C ∧ byte ≠ 0x5D ∧ byte ≠ 0x7D

/-- Where reading goes on behind a value that is given up at a depth: behind its end, in the midst
of it, or where nothing goes on. -/
def Strays (left : List UInt8) (depth : Nat) (behind rest : List UInt8) : Prop :=
  rest = behind ∨ Near left (depth + 1) rest ∨ (Outside left depth rest ∧ Stuck rest)

def Settled (left : List UInt8) (depth : Nat) : Option α → List UInt8 → Prop
  | some _, rest => Outside left depth rest
  | none, rest => Near left depth rest

def Synced (left : List UInt8) (depth : Nat) (behind : List UInt8) :
    Option α → List UInt8 → Prop
  | some _, rest => rest = behind
  | none, rest => Strays left depth behind rest

structure Wanders (attempt : Attempt α) : Prop where
  settled : ∀ left depth text value rest, Outside left depth text →
    attempt text = (value, rest) → Settled left depth value rest
  synced : ∀ left depth text tree behind value rest, Outside left depth text →
    Spells (.value tree) text behind → attempt text = (value, rest) →
    Synced left depth behind value rest

theorem Outside.near (outside : Outside left depth text) : Near left depth text :=
  .inl ⟨depth, Nat.le_refl depth, outside⟩

theorem Near.mono {lower : Nat} (near : Near left depth text) (le : lower ≤ depth) :
    Near left lower text := by
  rcases near with ⟨deeper, deep, outside⟩ | within
  · exact .inl ⟨deeper, Nat.le_trans le deep, outside⟩
  · exact .inr within

/-! Strings. -/

theorem passString_of_leave {mode : PassMode}
    (leaves : leave (.inside mode depth) text = some left) :
    ∃ behind, passString mode text = .ok behind ∧ Outside left depth behind := by
  induction text generalizing mode with
  | nil => contradiction
  | cons byte text ih =>
      by_cases closing : mode = .plain ∧ byte = 0x22
      · obtain ⟨rfl, rfl⟩ := closing
        exact ⟨text, rfl, leaves⟩
      · have inside : mode = .plain → byte ≠ 0x22 := fun plain quote => closing ⟨plain, quote⟩
        cases stepped : mode.step byte with
        | error fault =>
            rw [leave_fault inside stepped] at leaves
            contradiction
        | ok next =>
            rw [leave_step inside stepped] at leaves
            rw [passString_step inside stepped]
            exact ih leaves

namespace PassMode

variable {byte : UInt8} {next : PassMode}

theorem eq_plain_of_plain (notBackslash : byte ≠ 0x5C)
    (stepped : PassMode.plain.step byte = .ok next) : next = .plain := by
  rw [step, if_neg notBackslash] at stepped
  split at stepped
  · contradiction
  · exact (Except.ok.inj stepped).symm

theorem eq_plain_of_escape (notCode : byte ≠ 0x75)
    (stepped : PassMode.escape.step byte = .ok next) : next = .plain := by
  rw [step, if_neg notCode] at stepped
  split at stepped
  · exact (Except.ok.inj stepped).symm
  · contradiction

theorem eq_plain_of_code {digits : List UInt8} (enough : ¬ digits.length < 3)
    (stepped : (PassMode.code digits).step byte = .ok next) : next = .plain := by
  rw [step, if_neg enough] at stepped
  split at stepped
  · exact (Except.ok.inj stepped).symm
  · contradiction

end PassMode

/-- A fault that does not keep from passing over a string shows at the end of a character. -/
theorem StringMode.plain_of_fault {mode : StringMode} {byte : UInt8} {fault : Fault}
    {next : PassMode} (faulty : mode.step byte = .error fault)
    (passed : mode.passing.step byte = .ok next) : next = .plain := by
  cases mode with
  | plain =>
      rw [StringMode.step] at faulty
      split at faulty
      · contradiction
      next notBackslash => exact PassMode.eq_plain_of_plain notBackslash passed
  | escape =>
      rw [StringMode.step] at faulty
      split at faulty
      · contradiction
      next notCode => exact PassMode.eq_plain_of_escape notCode passed
  | code digits =>
      rw [StringMode.step] at faulty
      split at faulty
      · contradiction
      next enough => exact PassMode.eq_plain_of_code enough passed
  | paired lead =>
      rw [StringMode.step] at faulty
      split at faulty
      · contradiction
      next notBackslash => exact PassMode.eq_plain_of_plain notBackslash passed
  | pairedEscape lead =>
      rw [StringMode.step] at faulty
      split at faulty
      · contradiction
      next notCode => exact PassMode.eq_plain_of_escape notCode passed
  | pairedCode lead digits =>
      rw [StringMode.step] at faulty
      split at faulty
      · contradiction
      next enough => exact PassMode.eq_plain_of_code enough passed

theorem attemptStringFrom_step {mode next : StringMode} {byte : UInt8} {more : List UInt8}
    (inside : mode = .plain → byte ≠ 0x22) (stepped : mode.step byte = .ok (more, next))
    (done rest : List UInt8) : attemptStringFrom done mode (byte :: rest) =
      attemptStringFrom (more.reverse ++ done) next rest := by
  rw [attemptStringFrom, stepped]
  intro plain quote
  exact inside plain (of_decide_eq_true quote)

theorem attemptStringFrom_fault {mode : StringMode} {byte : UInt8} {fault : Fault}
    (inside : mode = .plain → byte ≠ 0x22) (stepped : mode.step byte = .error fault)
    (done rest : List UInt8) : attemptStringFrom done mode (byte :: rest) = (none, rest) := by
  rw [attemptStringFrom, stepped]
  intro plain quote
  exact inside plain (of_decide_eq_true quote)

/-- The byte that shows a fault closes the string, or it is one of the bytes within. -/
theorem passString_of_fault {mode : StringMode} {byte : UInt8} {fault : Fault}
    (faulty : mode.step byte = .error fault)
    (passed : passString mode.passing (byte :: text) = .ok behind)
    (leaves : leave (.inside mode.passing depth) (byte :: text) = some left) :
    text = behind ∨ Within left depth text := by
  by_cases closing : mode.passing = .plain ∧ byte = 0x22
  · obtain ⟨plain, rfl⟩ := closing
    rw [plain] at passed
    exact .inl (Except.ok.inj passed)
  · have inside : mode.passing = .plain → byte ≠ 0x22 := fun plain quote => closing ⟨plain, quote⟩
    cases stepped : mode.passing.step byte with
    | error fault =>
        rw [leave_fault inside stepped] at leaves
        contradiction
    | ok next =>
        obtain rfl := mode.plain_of_fault faulty stepped
        rw [leave_step inside stepped] at leaves
        exact .inr leaves

/-- An attempt at a string ends behind it, or, when it fails, possibly within it. -/
theorem attemptStringFrom_ends {done : List UInt8} {mode : StringMode}
    {bytes : Option (List UInt8)} (passed : passString mode.passing text = .ok behind)
    (leaves : leave (.inside mode.passing depth) text = some left)
    (attempt : attemptStringFrom done mode text = (bytes, rest)) :
    (bytes.isSome → rest = behind) ∧ (rest = behind ∨ Within left depth rest) := by
  induction text generalizing done mode with
  | nil => contradiction
  | cons byte text ih =>
      by_cases closing : mode = .plain ∧ byte = 0x22
      · obtain ⟨rfl, rfl⟩ := closing
        obtain ⟨rfl, rfl⟩ := Prod.mk.inj attempt
        obtain rfl := Except.ok.inj passed
        exact ⟨fun _ => rfl, .inl rfl⟩
      · have inside : mode = .plain → byte ≠ 0x22 := fun plain quote => closing ⟨plain, quote⟩
        cases stepped : mode.step byte with
        | error fault =>
            rw [attemptStringFrom_fault inside stepped] at attempt
            obtain ⟨rfl, rfl⟩ := Prod.mk.inj attempt
            exact ⟨nofun, passString_of_fault stepped passed leaves⟩
        | ok taken =>
            have passing_inside := mode.passing_inside inside stepped
            have passing_step := StringMode.passing_step stepped
            rw [attemptStringFrom_step inside stepped] at attempt
            rw [passString_step passing_inside passing_step] at passed
            rw [leave_step passing_inside passing_step] at leaves
            exact ih passed leaves attempt

theorem attemptString_ends {value : Option String}
    (passed : passString .plain text = .ok behind) (within : Within left depth text)
    (attempt : attemptString text = (value, rest)) :
    (value.isSome → rest = behind) ∧ (rest = behind ∨ Within left depth rest) := by
  have passed : passString StringMode.plain.passing text = .ok behind := passed
  obtain ⟨rfl, rfl⟩ := Prod.mk.inj attempt
  obtain ⟨whole, ends⟩ := attemptStringFrom_ends passed within rfl
  refine ⟨?_, ends⟩
  intro decoded
  apply whole
  cases read : (attemptStringFrom [] .plain text).1 with
  | none =>
      rw [read] at decoded
      contradiction
  | some bytes => rfl

theorem attemptString_settled {value : Option String} (within : Within left depth text)
    (attempt : attemptString text = (value, rest)) : Settled left depth value rest := by
  obtain ⟨behind, passed, outside⟩ := passString_of_leave within
  obtain ⟨whole, ends⟩ := attemptString_ends passed within attempt
  cases value with
  | some value =>
      obtain rfl := whole rfl
      exact outside
  | none =>
      rcases ends with rfl | within
      · exact outside.near
      · exact .inr ⟨depth, within⟩

theorem attemptString_synced {body : List UInt8} (quoted : Quoted body) {value : Option String}
    (outside : Outside left depth behind)
    (attempt : attemptString (body ++ 0x22 :: behind) = (value, rest)) :
    (value.isSome → rest = behind) ∧ (rest = behind ∨ Within left depth rest) := by
  have within : Within left depth (body ++ 0x22 :: behind) :=
    (leave_quoted quoted depth behind).trans outside
  exact attemptString_ends (passString_of_quoted quoted behind) within attempt

/-! Scalars. -/

theorem SpellsExponent.digits {negative : Bool} {digits : List UInt8}
    (spelled : SpellsExponent (some (negative, digits)) text rest) :
    ∀ byte ∈ digits, isDigit byte = true := by
  cases spelled with
  | plus _ spelled => exact spelled.2.1
  | minus _ spelled => exact spelled.2.1
  | unsigned _ spelled => exact spelled.2.1

theorem mem_of_mem_digitsBeyond {byte : UInt8} : ∀ {size : Nat} {digits : List UInt8},
    byte ∈ digitsBeyond size digits → byte ∈ digits
  | _, [], member => member
  | size, digit :: digits, member => by
      rw [digitsBeyond] at member
      split at member
      · exact List.mem_cons_of_mem digit member
      · exact List.mem_cons_of_mem digit (mem_of_mem_digitsBeyond member)

theorem SpellsNumeral.unread {n : Numeral} (spelled : SpellsNumeral n text rest) :
    ∀ byte ∈ n.unread, isDigit byte = true := by
  obtain ⟨-, -, mantissa, -, -, -, -, mark⟩ := spelled
  intro byte member
  unfold Numeral.unread at member
  split at member
  next digits exponent =>
    rw [exponent] at mark
    exact mark.digits byte (mem_of_mem_digitsBeyond member)
  next => contradiction

theorem attemptNumber_settled {value : Option Value} (outside : Outside left depth text)
    (attempt : attemptNumber text = (value, rest)) : Settled left depth value rest := by
  unfold attemptNumber at attempt
  split at attempt
  · obtain ⟨rfl, rfl⟩ := Prod.mk.inj attempt
    exact outside.near
  next n behind read =>
    have spelled := numeral_eq_ok.mp read
    have passed := spelled.skips.outside.mp outside
    split at attempt
    · obtain ⟨rfl, rfl⟩ := Prod.mk.inj attempt
      exact passed
    · obtain ⟨rfl, rfl⟩ := Prod.mk.inj attempt
      exact ((skips_digits spelled.unread behind).outside.mpr passed).near

theorem stuck_of_startsNumeral {byte : UInt8} (starts : startsNumeral byte = true)
    (rest : List UInt8) : Stuck (byte :: rest) := by
  rw [Stuck, afterSpace_cons (not_isSpace_of_startsNumeral starts)]
  rintro other member
  obtain rfl := Option.some.inj member
  exact ⟨ne_of_startsNumeral starts rfl, ne_of_startsNumeral starts rfl,
    ne_of_startsNumeral starts rfl⟩

theorem attemptNumber_synced {n : Numeral} {value : Option Value}
    (spelled : SpellsNumeral n text behind) (outside : Outside left depth text)
    (attempt : attemptNumber text = (value, rest)) : Synced left depth behind value rest := by
  rw [attemptNumber, numeral_eq_ok.mpr spelled] at attempt
  dsimp only at attempt
  split at attempt
  · obtain ⟨rfl, rfl⟩ := Prod.mk.inj attempt
    rfl
  · obtain ⟨rfl, rfl⟩ := Prod.mk.inj attempt
    have passed := spelled.skips.outside.mp outside
    have digit := spelled.unread
    cases unread : n.unread with
    | nil => exact .inl rfl
    | cons byte more =>
        rw [unread] at digit
        have starts : startsNumeral byte = true := by
          rw [startsNumeral, digit byte List.mem_cons_self]
          exact Bool.or_true _
        exact .inr (.inr ⟨(skips_digits digit behind).outside.mpr passed,
          stuck_of_startsNumeral starts _⟩)

theorem attemptWord_of_ok {tail : List UInt8} (value : α) (rest : List UInt8) :
    attemptWord tail value (tail ++ rest) = (some value, rest) := by
  have read : word tail (tail ++ rest) = .ok ((), rest) := word_eq_ok.mpr rfl
  rw [attemptWord, read]

theorem attemptWord_settled {tail : List UInt8} {given : α} {value : Option α}
    (quiet : ∀ byte ∈ tail, isQuiet byte = true) (outside : Outside left depth text)
    (attempt : attemptWord tail given text = (value, rest)) : Settled left depth value rest := by
  unfold attemptWord at attempt
  split at attempt
  next behind read =>
    obtain ⟨rfl, rfl⟩ := Prod.mk.inj attempt
    have skips : Skips text behind := ⟨tail, word_eq_ok.mp read, quiet⟩
    exact skips.outside.mp outside
  · obtain ⟨rfl, rfl⟩ := Prod.mk.inj attempt
    exact outside.near

theorem attemptScalar?_settled {byte : UInt8} {more : List UInt8} {value : Option Value}
    (outside : Outside left depth (byte :: more))
    (attempt : attemptScalar? byte more = some (value, rest)) :
    Settled left depth value rest := by
  have past : isQuiet byte = true → Outside left depth more := by
    intro quiet
    exact (Skips.cons quiet (.refl more)).outside.mp outside
  unfold attemptScalar? at attempt
  split at attempt
  next same =>
    subst same
    exact attemptWord_settled (by decide +kernel) (past rfl) (Option.some.inj attempt)
  split at attempt
  next same =>
    subst same
    exact attemptWord_settled (by decide +kernel) (past rfl) (Option.some.inj attempt)
  split at attempt
  next same =>
    subst same
    exact attemptWord_settled (by decide +kernel) (past rfl) (Option.some.inj attempt)
  split at attempt
  next => exact attemptNumber_settled outside (Option.some.inj attempt)
  split at attempt
  next same =>
    subst same
    generalize taken : attemptString more = found at attempt
    obtain ⟨text, behind⟩ := found
    obtain ⟨rfl, rfl⟩ := Prod.mk.inj (Option.some.inj attempt)
    have settled := attemptString_settled outside taken
    cases text with
    | some text => exact settled
    | none => exact settled
  next => contradiction

theorem attemptScalar?_null (rest : List UInt8) :
    attemptScalar? 0x6E (nullTail ++ rest) = some (some .null, rest) :=
  congrArg some (attemptWord_of_ok Value.null rest)

theorem attemptScalar?_boolean (given : Bool) (rest : List UInt8) :
    ∃ byte more, booleanLetters given ++ rest = byte :: more ∧
      attemptScalar? byte more = some (some (.boolean given), rest) := by
  cases given with
  | true =>
      exact ⟨0x74, trueTail ++ rest, rfl,
        congrArg some (attemptWord_of_ok (Value.boolean true) rest)⟩
  | false =>
      exact ⟨0x66, falseTail ++ rest, rfl,
        congrArg some (attemptWord_of_ok (Value.boolean false) rest)⟩

theorem attemptScalar?_text {value : Option String} {more : List UInt8}
    (attempt : attemptString more = (value, rest)) :
    attemptScalar? 0x22 more = some (value.map .text, rest) := by
  change some ((attemptString more).1.map Value.text, (attemptString more).2) = _
  rw [attempt]

/-! Behind a fault in a list or in a record. -/

theorem afterFaultyItem_closing (here : afterSpace text = 0x5D :: rest) :
    afterFaultyItem text = rest := by
  rw [afterFaultyItem, here]
  rfl

theorem afterFaultyMember_closing (here : afterSpace text = 0x7D :: rest) :
    afterFaultyMember text = rest := by
  rw [afterFaultyMember, here]
  rfl

theorem head_ne_of_not_closed {byte : UInt8} (closed : ¬ ∃ rest, text = byte :: rest) :
    ∀ other ∈ text.head?, other ≠ byte := by
  rintro other member rfl
  exact closed (List.head?_eq_some_iff.mp member)

/-- Behind a fault in a list reading stays at its depth, unless the list ends there. -/
theorem afterFaultyItem_outside (outside : Outside left depth text)
    (open_ : ∀ byte ∈ (afterSpace text).head?, byte ≠ 0x5D) :
    Outside left depth (afterFaultyItem text) := by
  unfold afterFaultyItem
  split
  next rest here => exact absurd rfl (open_ 0x5D (here ▸ rfl))
  next rest here =>
    rw [outside_afterSpace]
    have introduced : Introduces false text rest := here
    exact introduced.outside.mp outside
  next => exact outside_afterSpace.mpr outside

theorem afterFaultyItem_near (near : Near left (depth + 1) text) :
    Near left depth (afterFaultyItem text) := by
  rcases near with ⟨deeper, deep, outside⟩ | ⟨other, within⟩
  · obtain ⟨more, rfl⟩ := Nat.exists_eq_add_of_le' deep
    by_cases closed : ∃ rest, afterSpace text = 0x5D :: rest
    · obtain ⟨rest, here⟩ := closed
      rw [afterFaultyItem_closing here]
      have left_behind := (outside_closing (.inl rfl) here).mp outside
      exact .inl ⟨more + depth, Nat.le_add_left _ _, left_behind⟩
    · have stays := afterFaultyItem_outside outside (head_ne_of_not_closed closed)
      exact stays.near.mono (by omega)
  · unfold afterFaultyItem
    split
    next rest here =>
      exact .inr ⟨other, within.past (by decide) (by decide) (by decide) here⟩
    next rest here =>
      exact .inr ⟨other, (within.past (by decide) (by decide) (by decide) here).spaced⟩
    next => exact .inr ⟨other, within.spaced⟩

/-- Behind an item that is given up reading goes on deeper than the list, unless the list ends. -/
theorem afterFaultyItem_strays {middle : List UInt8} {items : List Tree}
    (spells : Spells (.items false items) middle behind) (outside : Outside left (depth + 1) middle)
    (strays : Strays left (depth + 1) middle rest) :
    Strays left depth behind (afterFaultyItem rest) := by
  rcases strays with rfl | near | ⟨at_item, stuck⟩
  · by_cases closed : ∃ last, afterSpace rest = 0x5D :: last
    · obtain ⟨last, ends⟩ := closed
      rw [afterFaultyItem_closing ends]
      cases spells with
      | noItem closing => exact .inl (List.cons.inj (ends.symm.trans closing)).2
      | item comma _ _ =>
          have comma : afterSpace rest = 0x2C :: _ := comma
          exact absurd (List.cons.inj (ends.symm.trans comma)).1 (by decide)
    · have stays := afterFaultyItem_outside outside (head_ne_of_not_closed closed)
      exact .inr (.inl stays.near)
  · exact .inr (.inl (afterFaultyItem_near near))
  · have stays := afterFaultyItem_outside at_item fun byte member => (stuck byte member).2.1
    exact .inr (.inl stays.near)

theorem afterFaultyMember_outside (outside : Outside left depth text)
    (open_ : ∀ byte ∈ (afterSpace text).head?, byte ≠ 0x7D) :
    Outside left depth (afterFaultyMember text) := by
  unfold afterFaultyMember
  split
  next rest here => exact absurd rfl (open_ 0x7D (here ▸ rfl))
  next => exact outside_afterSpace.mpr outside

theorem afterFaultyMember_near (near : Near left (depth + 1) text) :
    Near left depth (afterFaultyMember text) := by
  rcases near with ⟨deeper, deep, outside⟩ | ⟨other, within⟩
  · obtain ⟨more, rfl⟩ := Nat.exists_eq_add_of_le' deep
    by_cases closed : ∃ rest, afterSpace text = 0x7D :: rest
    · obtain ⟨rest, here⟩ := closed
      rw [afterFaultyMember_closing here]
      have left_behind := (outside_closing (.inr rfl) here).mp outside
      exact .inl ⟨more + depth, Nat.le_add_left _ _, left_behind⟩
    · have stays := afterFaultyMember_outside outside (head_ne_of_not_closed closed)
      exact stays.near.mono (by omega)
  · unfold afterFaultyMember
    split
    next rest here =>
      exact .inr ⟨other, within.past (by decide) (by decide) (by decide) here⟩
    next => exact .inr ⟨other, within.spaced⟩

theorem afterFaultyMember_strays {middle : List UInt8} {members : List (List UInt8 × Tree)}
    (spells : Spells (.members false members) middle behind)
    (outside : Outside left (depth + 1) middle) (strays : Strays left (depth + 1) middle rest) :
    Strays left depth behind (afterFaultyMember rest) := by
  rcases strays with rfl | near | ⟨at_value, stuck⟩
  · by_cases closed : ∃ last, afterSpace rest = 0x7D :: last
    · obtain ⟨last, ends⟩ := closed
      rw [afterFaultyMember_closing ends]
      cases spells with
      | noMember closing => exact .inl (List.cons.inj (ends.symm.trans closing)).2
      | member comma _ _ _ _ _ =>
          have comma : afterSpace rest = 0x2C :: _ := comma
          exact absurd (List.cons.inj (ends.symm.trans comma)).1 (by decide)
    · have stays := afterFaultyMember_outside outside (head_ne_of_not_closed closed)
      exact .inr (.inl stays.near)
  · exact .inr (.inl (afterFaultyMember_near near))
  · have stays := afterFaultyMember_outside at_value fun byte member => (stuck byte member).2.2
    exact .inr (.inl stays.near)

/-! Lists. -/

section Nested

variable {inner : Attempt Value} (wanders : Wanders inner)

include wanders

theorem attemptItems_settled {first : Bool} {done : List Value} {fuel : Nat}
    {value : Option Value} (outside : Outside left (depth + 1) text)
    (attempt : attemptItems inner first done fuel text = (value, rest)) :
    Settled left depth value rest := by
  induction fuel generalizing first done text with
  | zero =>
      obtain ⟨rfl, rfl⟩ := Prod.mk.inj attempt
      exact outside.near.mono (Nat.le_succ depth)
  | succ fuel ih =>
      simp only [attemptItems] at attempt
      split at attempt
      · obtain ⟨rfl, rfl⟩ := Prod.mk.inj attempt
        exact afterFaultyItem_near outside.near
      next closed more =>
        obtain ⟨rfl, rfl⟩ := Prod.mk.inj attempt
        obtain ⟨rfl, behind, here⟩ := moreItems_false.mp more
        rw [afterFaultyItem_closing ((afterSpace_afterSpace text).trans here)]
        exact (outside_closing (.inl rfl) here).mp outside
      next opened more =>
        obtain ⟨next, introduced, rfl⟩ := introduces_of_moreItems more
        have here := outside_afterSpace.mpr (introduced.outside.mp outside)
        split at attempt
        next item behind read =>
          exact ih (wanders.settled _ _ _ _ _ here read) attempt
        next behind read =>
          obtain ⟨rfl, rfl⟩ := Prod.mk.inj attempt
          exact afterFaultyItem_near (wanders.settled _ _ _ _ _ here read)

theorem attemptItems_synced {first : Bool} {done : List Value} {fuel : Nat}
    {value : Option Value} {items : List Tree} (outside : Outside left (depth + 1) text)
    (spells : Spells (.items first items) text behind)
    (attempt : attemptItems inner first done fuel text = (value, rest)) :
    Synced left depth behind value rest := by
  induction fuel generalizing first done text items with
  | zero =>
      obtain ⟨rfl, rfl⟩ := Prod.mk.inj attempt
      exact .inr (.inl outside.near)
  | succ fuel ih =>
      simp only [attemptItems] at attempt
      cases spells with
      | noItem here =>
          have more : moreItems first text = .ok (false, afterSpace text) :=
            moreItems_false.mpr ⟨rfl, behind, here⟩
          simp only [more, afterFaultyItem_closing ((afterSpace_afterSpace text).trans here)]
            at attempt
          obtain ⟨rfl, rfl⟩ := Prod.mk.inj attempt
          rfl
      | @item _ item others _ next middle _ introduced spelled others_spelled =>
          -- Attempt and grammar go side by side as long as the attempts succeed; `there` is where
          -- the grammar stands behind the item in any case.
          have more := moreItems_of_introduces introduced spelled
          have here := outside_afterSpace.mpr (introduced.outside.mp outside)
          have spelled := spells_value_congr (afterSpace_afterSpace next).symm spelled
          have there := (spelled.outside (depth + 1)).mp here
          rw [more] at attempt
          dsimp only at attempt
          split at attempt
          next item_value after read =>
            obtain rfl : after = middle := wanders.synced _ _ _ _ _ _ _ here spelled read
            exact ih there others_spelled attempt
          next after read =>
            obtain ⟨rfl, rfl⟩ := Prod.mk.inj attempt
            exact afterFaultyItem_strays others_spelled there
              (wanders.synced _ _ _ _ _ _ _ here spelled read)

/-! Records. -/

theorem attemptMembers_settled {first : Bool} {done : List (String × Value)} {fuel : Nat}
    {value : Option Value} (outside : Outside left (depth + 1) text)
    (attempt : attemptMembers inner first done fuel text = (value, rest)) :
    Settled left depth value rest := by
  induction fuel generalizing first done text with
  | zero =>
      obtain ⟨rfl, rfl⟩ := Prod.mk.inj attempt
      exact outside.near.mono (Nat.le_succ depth)
  | succ fuel ih =>
      simp only [attemptMembers] at attempt
      split at attempt
      · obtain ⟨rfl, rfl⟩ := Prod.mk.inj attempt
        exact afterFaultyMember_near outside.near
      next closed more =>
        obtain ⟨rfl, rfl⟩ := Prod.mk.inj attempt
        obtain ⟨rfl, behind, here⟩ := moreMembers_false.mp more
        rw [afterFaultyMember_closing ((afterSpace_afterSpace text).trans here)]
        exact (outside_closing (.inr rfl) here).mp outside
      next opened more =>
        obtain ⟨next, introduced, quote⟩ := moreMembers_true.mp more
        have within : Within left (depth + 1) opened := by
          have here := outside_afterSpace.mpr (introduced.outside.mp outside)
          rw [quote] at here
          exact here
        split at attempt
        next colon read =>
          obtain ⟨rfl, rfl⟩ := Prod.mk.inj attempt
          exact afterFaultyMember_near (attemptString_settled within read)
        next key colon read =>
          have at_colon : Outside left (depth + 1) colon := attemptString_settled within read
          split at attempt
          · obtain ⟨rfl, rfl⟩ := Prod.mk.inj attempt
            exact afterFaultyMember_near at_colon.near
          next middle marked =>
            have colon_spelled := mark_eq_ok.mp marked
            have here := (outside_quiet (by decide) colon_spelled).mp at_colon
            split at attempt
            next value behind read =>
              exact ih (wanders.settled _ _ _ _ _ here read) attempt
            next behind read =>
              obtain ⟨rfl, rfl⟩ := Prod.mk.inj attempt
              exact afterFaultyMember_near (wanders.settled _ _ _ _ _ here read)

theorem attemptMembers_synced {first : Bool} {done : List (String × Value)} {fuel : Nat}
    {value : Option Value} {members : List (List UInt8 × Tree)}
    (outside : Outside left (depth + 1) text)
    (spells : Spells (.members first members) text behind)
    (attempt : attemptMembers inner first done fuel text = (value, rest)) :
    Synced left depth behind value rest := by
  induction fuel generalizing first done text members with
  | zero =>
      obtain ⟨rfl, rfl⟩ := Prod.mk.inj attempt
      exact .inr (.inl outside.near)
  | succ fuel ih =>
      simp only [attemptMembers] at attempt
      cases spells with
      | noMember here =>
          have more : moreMembers first text = .ok (false, afterSpace text) :=
            moreMembers_false.mpr ⟨rfl, behind, here⟩
          simp only [more, afterFaultyMember_closing ((afterSpace_afterSpace text).trans here)]
            at attempt
          obtain ⟨rfl, rfl⟩ := Prod.mk.inj attempt
          rfl
      | @member _ key tree others _ next colon middle after _ introduced quoted key_spelled
          colon_spelled spelled others_spelled =>
          have more := moreMembers_true.mpr ⟨next, introduced, key_spelled⟩
          have at_colon :=
            (outside_quoted quoted key_spelled).mp (introduced.outside.mp outside)
          have here := (outside_quiet (by decide) colon_spelled).mp at_colon
          have there := (spelled.outside (depth + 1)).mp here
          rw [more] at attempt
          dsimp only at attempt
          split at attempt
          next after_key read =>
            -- A key may be well spelled and still no text.
            obtain ⟨rfl, rfl⟩ := Prod.mk.inj attempt
            rcases (attemptString_synced quoted at_colon read).2 with rfl | within
            · have open_ : ∀ byte ∈ (afterSpace after_key).head?, byte ≠ 0x7D := by
                rw [colon_spelled]
                rintro byte ⟨⟩
                decide
              exact .inr (.inl (afterFaultyMember_outside at_colon open_).near)
            · have near : Near left (depth + 1 + 1) after_key := .inr ⟨_, within⟩
              exact .inr (.inl (afterFaultyMember_near near))
          next name after_key read =>
            obtain rfl : after_key = colon := (attemptString_synced quoted at_colon read).1 rfl
            rw [mark_eq_ok.mpr colon_spelled] at attempt
            dsimp only at attempt
            split at attempt
            next member_value after_value read =>
              obtain rfl : after_value = after := wanders.synced _ _ _ _ _ _ _ here spelled read
              exact ih there others_spelled attempt
            next after_value read =>
              obtain ⟨rfl, rfl⟩ := Prod.mk.inj attempt
              exact afterFaultyMember_strays others_spelled there
                (wanders.synced _ _ _ _ _ _ _ here spelled read)

end Nested

/-! Values. -/

theorem attemptWith_settled {inner : Option (Attempt Value)}
    (wanders : ∀ attempt ∈ inner, Wanders attempt) {value : Option Value}
    (outside : Outside left depth text) (attempt : attemptWith inner text = (value, rest)) :
    Settled left depth value rest := by
  unfold attemptWith at attempt
  split at attempt
  next empty => exact absurd empty outside.not_spaces
  next byte more here =>
    have spaced := outside_afterSpace.mpr outside
    rw [here] at spaced
    split at attempt
    next result scalar =>
      subst attempt
      exact attemptScalar?_settled spaced scalar
    next =>
      obtain ⟨rfl, rfl⟩ := Prod.mk.inj attempt
      exact spaced.near
    next nested _ =>
      have nested_wanders := wanders nested rfl
      split at attempt
      next same =>
        have inside := (outside_opening (.inl same) here).mp outside
        exact attemptItems_settled nested_wanders inside attempt
      split at attempt
      next same =>
        have inside := (outside_opening (.inr same) here).mp outside
        exact attemptMembers_settled nested_wanders inside attempt
      next =>
        obtain ⟨rfl, rfl⟩ := Prod.mk.inj attempt
        exact spaced.near

theorem stuck_of_spells {tree : Tree} (spells : Spells (.value tree) text behind) :
    Stuck (afterSpace text) := by
  intro byte member
  rw [afterSpace_afterSpace] at member
  obtain ⟨more, here⟩ := List.head?_eq_some_iff.mp (Option.mem_def.mp member)
  exact Tree.ne_of_startsWith (spells.startsWith here)

theorem attemptWith_synced {inner : Option (Attempt Value)}
    (wanders : ∀ attempt ∈ inner, Wanders attempt) {tree : Tree} {value : Option Value}
    (outside : Outside left depth text) (spells : Spells (.value tree) text behind)
    (attempt : attemptWith inner text = (value, rest)) : Synced left depth behind value rest := by
  have there := (spells.outside depth).mp outside
  have spaced := outside_afterSpace.mpr outside
  have given_up : Strays left depth behind (afterSpace text) :=
    .inr (.inr ⟨spaced, stuck_of_spells spells⟩)
  cases spells with
  | null here =>
      rw [attemptWith_of_scalar here (attemptScalar?_null behind)] at attempt
      obtain ⟨rfl, rfl⟩ := Prod.mk.inj attempt
      rfl
  | @boolean given _ _ here =>
      obtain ⟨byte, more, same, scalar⟩ := attemptScalar?_boolean given behind
      rw [attemptWith_of_scalar (here.trans same) scalar] at attempt
      obtain ⟨rfl, rfl⟩ := Prod.mk.inj attempt
      rfl
  | number spelled =>
      obtain ⟨first, more, here, starts⟩ := spelled.starts
      rw [attemptWith_of_scalar here (attemptScalar?_numeral starts more)] at attempt
      rw [here] at spelled spaced
      exact attemptNumber_synced spelled spaced attempt
  | @text body _ _ quoted here =>
      generalize taken : attemptString (body ++ 0x22 :: behind) = found
      obtain ⟨said, after⟩ := found
      rw [attemptWith_of_scalar here (attemptScalar?_text taken)] at attempt
      obtain ⟨rfl, rfl⟩ := Prod.mk.inj attempt
      obtain ⟨whole, ends⟩ := attemptString_synced quoted there taken
      cases said with
      | some said => exact whole rfl
      | none =>
          rcases ends with same | within
          · exact .inl same
          · exact .inr (.inl (.inr ⟨_, within⟩))
  | list here items =>
      rw [attemptWith, here] at attempt
      cases inner with
      | none =>
          obtain ⟨rfl, rfl⟩ := Prod.mk.inj attempt
          rw [here] at given_up
          exact given_up
      | some nested =>
          have inside := (outside_opening (.inl rfl) here).mp outside
          exact attemptItems_synced (wanders nested rfl) inside items attempt
  | record here members =>
      rw [attemptWith, here] at attempt
      cases inner with
      | none =>
          obtain ⟨rfl, rfl⟩ := Prod.mk.inj attempt
          rw [here] at given_up
          exact given_up
      | some nested =>
          have inside := (outside_opening (.inr rfl) here).mp outside
          exact attemptMembers_synced (wanders nested rfl) inside members attempt

theorem attemptWith_wanders {inner : Option (Attempt Value)}
    (wanders : ∀ attempt ∈ inner, Wanders attempt) : Wanders (attemptWith inner) where
  settled := fun _ _ _ _ _ => attemptWith_settled wanders
  synced := fun _ _ _ _ _ _ _ => attemptWith_synced wanders

theorem attemptValue_wanders (depth : Nat) : Wanders (attemptValue depth) := by
  induction depth with
  | zero => exact attemptWith_wanders nofun
  | succ depth ih =>
      apply attemptWith_wanders
      rintro attempt ⟨⟩
      exact ih

end Accounts.Json
