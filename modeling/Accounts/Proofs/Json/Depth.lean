import Accounts.Proofs.Json.Passing
import Mathlib.Data.List.TakeWhile

/-! Where a byte of JSON stands: outside of strings or within one, and how many lists and records
are open around it. A reader that gives up on a value goes on in the midst of it, and all that can
be told of it from there on is at which depth it is, or that it takes what stands outside of strings
for what stands within, and the other way round. -/

namespace Accounts.Json

inductive Spot
  | outside (depth : Nat)
  | inside (mode : PassMode) (depth : Nat)

/-- Whether a byte is one of some that never stand outside of strings: a backslash, `b`, `d`, `i`
and `x`. -/
def isAlien (byte : UInt8) : Bool :=
  byte == 0x5C || byte == 0x62 || byte == 0x64 || byte == 0x69 || byte == 0x78

def leave : Spot → List UInt8 → Option (List UInt8)
  | _, [] => none
  | .outside depth, byte :: rest =>
    if byte = 0x22 then leave (.inside .plain depth) rest
    else if byte = 0x5B ∨ byte = 0x7B then leave (.outside (depth + 1)) rest
    else if byte = 0x5D ∨ byte = 0x7D then
      match depth with
      | 0 => some rest
      | depth + 1 => leave (.outside depth) rest
    else if isAlien byte then none
    else leave (.outside depth) rest
  | .inside mode depth, byte :: rest =>
    match mode, decide (byte = 0x22) with
    | .plain, true => leave (.outside depth) rest
    | mode, _ =>
      match mode.step byte with
      | .error _ => none
      | .ok mode => leave (.inside mode depth) rest

/-! Byte by byte. -/

variable {left text rest body : List UInt8} {depth : Nat} {byte : UInt8}

theorem leave_outside (depth : Nat) (byte : UInt8) (rest : List UInt8) :
    leave (.outside depth) (byte :: rest) =
      if byte = 0x22 then leave (.inside .plain depth) rest
      else if byte = 0x5B ∨ byte = 0x7B then leave (.outside (depth + 1)) rest
      else if byte = 0x5D ∨ byte = 0x7D then
        match depth with
        | 0 => some rest
        | depth + 1 => leave (.outside depth) rest
      else if isAlien byte then none
      else leave (.outside depth) rest := rfl

theorem leave_opening (opening : byte = 0x5B ∨ byte = 0x7B) (depth : Nat) (rest : List UInt8) :
    leave (.outside depth) (byte :: rest) = leave (.outside (depth + 1)) rest := by
  rcases opening with rfl | rfl
  · rfl
  · rfl

theorem leave_closing (closing : byte = 0x5D ∨ byte = 0x7D) (depth : Nat) (rest : List UInt8) :
    leave (.outside (depth + 1)) (byte :: rest) = leave (.outside depth) rest := by
  rcases closing with rfl | rfl
  · rfl
  · rfl

theorem leave_last (closing : byte = 0x5D ∨ byte = 0x7D) (rest : List UInt8) :
    leave (.outside 0) (byte :: rest) = some rest := by
  rcases closing with rfl | rfl
  · rfl
  · rfl

theorem leave_step {mode next : PassMode} (inside : mode = .plain → byte ≠ 0x22)
    (stepped : mode.step byte = .ok next) (depth : Nat) (rest : List UInt8) :
    leave (.inside mode depth) (byte :: rest) = leave (.inside next depth) rest := by
  rw [leave, stepped]
  intro plain quote
  exact inside plain (of_decide_eq_true quote)

theorem leave_fault {mode : PassMode} {fault : Fault} (inside : mode = .plain → byte ≠ 0x22)
    (stepped : mode.step byte = .error fault) (depth : Nat) (rest : List UInt8) :
    leave (.inside mode depth) (byte :: rest) = none := by
  rw [leave, stepped]
  intro plain quote
  exact inside plain (of_decide_eq_true quote)

theorem leave_plain (printable : ¬ byte < 0x20) (notQuote : byte ≠ 0x22)
    (notBackslash : byte ≠ 0x5C) (depth : Nat) (rest : List UInt8) :
    leave (.inside .plain depth) (byte :: rest) = leave (.inside .plain depth) rest := by
  have stepped : PassMode.plain.step byte = .ok .plain := by
    rw [PassMode.step, if_neg notBackslash, if_neg printable]
  exact leave_step (fun _ => notQuote) stepped depth rest

theorem leave_quoted (quoted : Quoted body) (depth : Nat) (rest : List UInt8) :
    leave (.inside .plain depth) (body ++ 0x22 :: rest) = leave (.outside depth) rest := by
  induction quoted with
  | nil => rfl
  | @plain byte body printable notQuote notBackslash _ ih =>
      rw [List.cons_append, leave_plain printable notQuote notBackslash, ih]
  | @escape letter body stands _ ih =>
      have notCode : letter ≠ 0x75 := by
        rintro rfl
        contradiction
      have opened : leave (.inside .plain depth) (0x5C :: letter :: body ++ 0x22 :: rest) =
          leave (.inside .escape depth) (letter :: (body ++ 0x22 :: rest)) := rfl
      have stepped : PassMode.escape.step letter = .ok .plain := by
        rw [PassMode.step, if_neg notCode, if_pos stands]
      rw [opened, leave_step (fun same => PassMode.noConfusion same) stepped, ih]
  | @code a b c d body digits _ ih =>
      have opened : leave (.inside .plain depth)
          (0x5C :: 0x75 :: a :: b :: c :: d :: body ++ 0x22 :: rest) =
          leave (.inside (.code [c, b, a]) depth) (d :: (body ++ 0x22 :: rest)) := rfl
      have stepped : (PassMode.code [c, b, a]).step d = .ok .plain := by
        rw [PassMode.step, if_neg (by simp), if_pos digits]
      rw [opened, leave_step (fun same => PassMode.noConfusion same) stepped, ih]

/-! Bytes that change nothing. -/

def isQuiet (byte : UInt8) : Bool :=
  0x20 ≤ byte && byte != 0x22 && byte != 0x5B && byte != 0x7B && byte != 0x5D && byte != 0x7D &&
    !isAlien byte

theorem leave_quiet (quiet : isQuiet byte = true) (depth : Nat) (rest : List UInt8) :
    leave (.outside depth) (byte :: rest) = leave (.outside depth) rest ∧
      leave (.inside .plain depth) (byte :: rest) = leave (.inside .plain depth) rest := by
  simp only [isQuiet, Bool.and_eq_true, decide_eq_true_eq, bne_iff_ne, Bool.not_eq_true'] at quiet
  obtain ⟨⟨⟨⟨⟨⟨least, notQuote⟩, notList⟩, notRecord⟩, notListEnd⟩, notRecordEnd⟩, known⟩ :=
    quiet
  constructor
  · rw [leave_outside, if_neg notQuote, if_neg (not_or.mpr ⟨notList, notRecord⟩),
      if_neg (not_or.mpr ⟨notListEnd, notRecordEnd⟩), if_neg (by simp [known])]
  · have notBackslash : byte ≠ 0x5C := by
      rintro rfl
      contradiction
    have printable : ¬ byte < 0x20 := UInt8.not_lt.mpr least
    exact leave_plain printable notQuote notBackslash depth rest

def Skips (text rest : List UInt8) : Prop :=
  ∃ bytes, text = bytes ++ rest ∧ ∀ byte ∈ bytes, isQuiet byte = true

theorem Skips.refl (text : List UInt8) : Skips text text := ⟨[], rfl, nofun⟩

theorem Skips.cons (quiet : isQuiet byte = true) (skips : Skips text rest) :
    Skips (byte :: text) rest := by
  obtain ⟨bytes, rfl, quiets⟩ := skips
  exact ⟨byte :: bytes, rfl, List.forall_mem_cons.mpr ⟨quiet, quiets⟩⟩

theorem Skips.trans {middle : List UInt8} (first : Skips text middle)
    (second : Skips middle rest) : Skips text rest := by
  obtain ⟨bytes, rfl, quiets⟩ := first
  obtain ⟨more, rfl, more_quiets⟩ := second
  exact ⟨bytes ++ more, (List.append_assoc _ _ _).symm,
    List.forall_mem_append.mpr ⟨quiets, more_quiets⟩⟩

theorem Skips.leave (skips : Skips text rest) (depth : Nat) :
    leave (.outside depth) text = leave (.outside depth) rest ∧
      leave (.inside .plain depth) text = leave (.inside .plain depth) rest := by
  obtain ⟨bytes, rfl, quiets⟩ := skips
  induction bytes with
  | nil => exact ⟨rfl, rfl⟩
  | cons byte bytes ih =>
      obtain ⟨quiet, quiets⟩ := List.forall_mem_cons.mp quiets
      obtain ⟨outside, inside⟩ := leave_quiet quiet depth (bytes ++ rest)
      exact ⟨outside.trans (ih quiets).1, inside.trans (ih quiets).2⟩

theorem isQuiet_of_isDigit (digit : isDigit byte = true) : isQuiet byte = true := by
  have all : ∀ n < 256, isDigit (UInt8.ofNat n) = true → isQuiet (UInt8.ofNat n) = true := by
    decide +kernel
  have here := all byte.toNat byte.toNat_lt
  rw [UInt8.ofNat_toNat] at here
  exact here digit

theorem skips_digits {digits : List UInt8} (digit : ∀ byte ∈ digits, isDigit byte = true)
    (rest : List UInt8) : Skips (digits ++ rest) rest :=
  ⟨digits, rfl, fun byte member => isQuiet_of_isDigit (digit byte member)⟩

theorem SpellsDigits.skips {digits : List UInt8} (spelled : SpellsDigits digits text rest) :
    Skips text rest := by
  obtain ⟨-, digit, rfl, -⟩ := spelled
  exact skips_digits digit rest

theorem SpellsNumeral.skips {n : Numeral} (spelled : SpellsNumeral n text rest) :
    Skips text rest := by
  obtain ⟨unsigned, behind, mantissa, sign, digits, -, point, mark⟩ := spelled
  have sign_skips : Skips text unsigned := by
    generalize n.negative = negative at sign
    cases sign with
    | minus => exact .cons (by decide) (.refl _)
    | none => exact .refl _
  have point_skips : Skips behind mantissa := by
    generalize n.fraction = fraction at point
    cases point with
    | point digits => exact .cons (by decide) digits.skips
    | none => exact .refl _
  have quiet_mark : ∀ {mark : UInt8}, IsExponentMark mark → isQuiet mark = true := by
    rintro mark (rfl | rfl)
    · decide
    · decide
  have mark_skips : Skips mantissa rest := by
    generalize n.exponent = exponent at mark
    cases mark with
    | plus isMark digits => exact .cons (quiet_mark isMark) (.cons (by decide) digits.skips)
    | minus isMark digits => exact .cons (quiet_mark isMark) (.cons (by decide) digits.skips)
    | unsigned isMark digits => exact .cons (quiet_mark isMark) digits.skips
    | none => exact .refl _
  exact sign_skips.trans (digits.skips.trans (point_skips.trans mark_skips))

theorem skips_null (rest : List UInt8) : Skips (0x6E :: nullTail ++ rest) rest :=
  ⟨0x6E :: nullTail, rfl, by decide +kernel⟩

theorem skips_boolean (value : Bool) (rest : List UInt8) :
    Skips (booleanLetters value ++ rest) rest := by
  refine ⟨booleanLetters value, rfl, ?_⟩
  cases value with
  | true => decide +kernel
  | false => decide +kernel

/-! Where a text stands, told by what is left behind it. -/

def Outside (left : List UInt8) (depth : Nat) (text : List UInt8) : Prop :=
  leave (.outside depth) text = some left

def Within (left : List UInt8) (depth : Nat) (text : List UInt8) : Prop :=
  leave (.inside .plain depth) text = some left

theorem outside_afterSpace : Outside left depth (afterSpace text) ↔ Outside left depth text := by
  have same : leave (.outside depth) (afterSpace text) = leave (.outside depth) text := by
    induction text with
    | nil => rfl
    | cons byte text ih =>
        cases space : isSpace byte with
        | false => rw [afterSpace_cons space]
        | true =>
            rw [afterSpace_space space, ih]
            simp only [isSpace, Bool.or_eq_true, beq_iff_eq] at space
            rcases space with ((rfl | rfl) | rfl) | rfl
            · rfl
            · rfl
            · rfl
            · rfl
  rw [Outside, Outside, same]

/-- Within a string a space is a character, and the other bytes of that kind are none. -/
theorem Within.spaced (within : Within left depth text) :
    Within left depth (afterSpace text) := by
  induction text with
  | nil => exact within
  | cons byte text ih =>
      cases space : isSpace byte with
      | false =>
          rw [afterSpace_cons space]
          exact within
      | true =>
          rw [afterSpace_space space]
          simp only [isSpace, Bool.or_eq_true, beq_iff_eq] at space
          rcases space with ((rfl | rfl) | rfl) | rfl
          · exact ih within
          · exact absurd within (Option.some_ne_none left).symm
          · exact absurd within (Option.some_ne_none left).symm
          · exact absurd within (Option.some_ne_none left).symm

theorem Outside.not_spaces (outside : Outside left depth text) : afterSpace text ≠ [] := by
  intro spaces
  rw [← outside_afterSpace, spaces] at outside
  contradiction

theorem Within.not_spaces (within : Within left depth text) : afterSpace text ≠ [] := by
  intro spaces
  have ended := within.spaced
  rw [spaces] at ended
  contradiction

theorem Skips.outside (skips : Skips text rest) :
    Outside left depth text ↔ Outside left depth rest := by
  rw [Outside, Outside, (skips.leave depth).1]

theorem Skips.within (skips : Skips text rest) :
    Within left depth text ↔ Within left depth rest := by
  rw [Within, Within, (skips.leave depth).2]

theorem outside_opening (opening : byte = 0x5B ∨ byte = 0x7B)
    (here : afterSpace text = byte :: rest) :
    Outside left depth text ↔ Outside left (depth + 1) rest := by
  rw [← outside_afterSpace, here, Outside, Outside, leave_opening opening]

theorem outside_closing (closing : byte = 0x5D ∨ byte = 0x7D)
    (here : afterSpace text = byte :: rest) :
    Outside left (depth + 1) text ↔ Outside left depth rest := by
  rw [← outside_afterSpace, here, Outside, Outside, leave_closing closing]

theorem outside_last (closing : byte = 0x5D ∨ byte = 0x7D)
    (here : afterSpace text = byte :: rest) : Outside left 0 text ↔ rest = left := by
  rw [← outside_afterSpace, here, Outside, leave_last closing, Option.some.injEq]

theorem outside_quiet (quiet : isQuiet byte = true) (here : afterSpace text = byte :: rest) :
    Outside left depth text ↔ Outside left depth rest := by
  rw [← outside_afterSpace, here]
  exact (Skips.cons quiet (.refl rest)).outside

theorem outside_quoted (quoted : Quoted body)
    (here : afterSpace text = 0x22 :: (body ++ 0x22 :: rest)) :
    Outside left depth text ↔ Outside left depth rest := by
  have opened : leave (.outside depth) (0x22 :: (body ++ 0x22 :: rest)) =
      leave (.inside .plain depth) (body ++ 0x22 :: rest) := rfl
  rw [← outside_afterSpace, here, Outside, Outside, opened, leave_quoted quoted]

theorem Within.past (printable : ¬ byte < 0x20) (notQuote : byte ≠ 0x22)
    (notBackslash : byte ≠ 0x5C) (here : afterSpace text = byte :: rest)
    (within : Within left depth text) : Within left depth rest := by
  have spaced := within.spaced
  rw [here, Within, leave_plain printable notQuote notBackslash] at spaced
  exact spaced

/-! Parts of the grammar, as they are and taken for their reverse. -/

/-- What a part leads to from a depth: a value to its own depth, and what is left of a list or of a
record to the depth around it. -/
def Part.LeadsTo (left : List UInt8) : Part → Nat → List UInt8 → Prop
  | .value _, depth, rest => Outside left depth rest
  | .items _ _, 0, rest => rest = left
  | .items _ _, depth + 1, rest => Outside left depth rest
  | .members _ _, 0, rest => rest = left
  | .members _ _, depth + 1, rest => Outside left depth rest

theorem Introduces.outside {first : Bool} {next : List UInt8}
    (here : Introduces first text next) :
    Outside left depth text ↔ Outside left depth next := by
  cases first with
  | true =>
      obtain rfl : text = next := here
      exact Iff.rfl
  | false => exact outside_quiet (by decide) here

/-- What stands in front of the value of a member leaves no trace. -/
theorem outside_value {first : Bool} {next key colon middle : List UInt8}
    (here : Introduces first text next) (quoted : Quoted key)
    (key_spelled : afterSpace next = 0x22 :: (key ++ 0x22 :: colon))
    (colon_spelled : afterSpace colon = 0x3A :: middle) :
    Outside left depth text ↔ Outside left depth middle :=
  here.outside.trans ((outside_quoted quoted key_spelled).trans
    (outside_quiet (by decide) colon_spelled))

theorem Introduces.within {first : Bool} {next : List UInt8}
    (here : Introduces first text next) (within : Within left depth text) :
    Within left depth next := by
  cases first with
  | true =>
      obtain rfl : text = next := here
      exact within
  | false => exact within.past (by decide) (by decide) (by decide) here

theorem Spells.outside {part : Part} (spells : Spells part text rest) (depth : Nat) :
    Outside left depth text ↔ part.LeadsTo left depth rest := by
  -- A closing bracket is the end of all at depth 0 and leads one level up otherwise.
  induction spells generalizing depth with
  | @null text rest here =>
      rw [← outside_afterSpace, here]
      exact (skips_null rest).outside
  | @boolean value text rest here =>
      rw [← outside_afterSpace, here]
      exact (skips_boolean value rest).outside
  | number here =>
      rw [← outside_afterSpace]
      exact here.skips.outside
  | text quoted here => exact outside_quoted quoted here
  | list here _ ih => exact (outside_opening (.inl rfl) here).trans (ih (depth + 1))
  | record here _ ih => exact (outside_opening (.inr rfl) here).trans (ih (depth + 1))
  | noItem here =>
      cases depth with
      | zero => exact outside_last (.inl rfl) here
      | succ depth => exact outside_closing (.inl rfl) here
  | item here _ _ value_ih items_ih =>
      have whole := here.outside.trans ((value_ih depth).trans (items_ih depth))
      cases depth with
      | zero => exact whole
      | succ depth => exact whole
  | noMember here =>
      cases depth with
      | zero => exact outside_last (.inr rfl) here
      | succ depth => exact outside_closing (.inr rfl) here
  | member here quoted key_spelled colon_spelled _ _ value_ih members_ih =>
      have whole := (outside_value here quoted key_spelled colon_spelled).trans
        ((value_ih depth).trans (members_ih depth))
      cases depth with
      | zero => exact whole
      | succ depth => exact whole

theorem afterSpace_ne_nil {text : List UInt8} {byte : UInt8} (member : byte ∈ text)
    (notSpace : isSpace byte = false) : afterSpace text ≠ [] := by
  intro spaces
  have space := List.dropWhile_eq_nil_iff.mp spaces byte member
  rw [notSpace] at space
  contradiction

section Reversed

variable (spaces : afterSpace left = [])

include spaces

/-- The characters of a string may be taken for what stands outside of strings. None of them is
alien then, and its closing quote is taken for an opening one. -/
theorem Quoted.within_of_outside (quoted : Quoted body) {depth : Nat}
    (outside : Outside left depth (body ++ 0x22 :: rest)) :
    (∀ byte ∈ body, isAlien byte = false) ∧ ∃ depth, Within left depth rest := by
  -- The depth is lost: brackets among the characters count.
  induction quoted generalizing depth with
  | nil => exact ⟨nofun, depth, outside⟩
  | @plain byte body printable notQuote notBackslash _ ih =>
      have step : isAlien byte = false ∧
          ∃ depth, Outside left depth (body ++ 0x22 :: rest) := by
        rw [Outside, List.cons_append, leave_outside, if_neg notQuote] at outside
        split at outside
        next opening =>
          refine ⟨?_, depth + 1, outside⟩
          rcases opening with rfl | rfl
          · rfl
          · rfl
        split at outside
        next closing =>
          have known : isAlien byte = false := by
            rcases closing with rfl | rfl
            · rfl
            · rfl
          split at outside
          next =>
            -- The string would end the text, but its closing quote is no space.
            obtain rfl := Option.some.inj outside
            exact absurd spaces
              (afterSpace_ne_nil (List.mem_append_right _ List.mem_cons_self) (by decide))
          next depth => exact ⟨known, depth, outside⟩
        split at outside
        · contradiction
        next known => exact ⟨Bool.not_eq_true _ ▸ known, depth, outside⟩
      obtain ⟨known, depth, outside⟩ := step
      obtain ⟨others, within⟩ := ih outside
      exact ⟨List.forall_mem_cons.mpr ⟨known, others⟩, within⟩
  | escape => exact absurd outside nofun
  | code => exact absurd outside nofun

/-- A string may be taken for the end of one and the beginning of another. -/
theorem Quoted.within_of_within (quoted : Quoted body) {depth : Nat}
    (within : Within left depth (0x22 :: (body ++ 0x22 :: rest))) :
    (∀ byte ∈ body, isAlien byte = false) ∧ ∃ depth, Within left depth rest :=
  quoted.within_of_outside spaces within

theorem Spells.within {part : Part} (spells : Spells part text rest) {depth : Nat}
    (within : Within left depth text) : ∃ depth, Within left depth rest := by
  induction spells generalizing depth with
  | @null text rest here =>
      have spaced := within.spaced
      rw [here, (skips_null rest).within] at spaced
      exact ⟨depth, spaced⟩
  | @boolean value text rest here =>
      have spaced := within.spaced
      rw [here, (skips_boolean value rest).within] at spaced
      exact ⟨depth, spaced⟩
  | number here => exact ⟨depth, here.skips.within.mp within.spaced⟩
  | text quoted here =>
      have spaced := within.spaced
      rw [here] at spaced
      exact (quoted.within_of_within spaces spaced).2
  | list here _ ih => exact ih (within.past (by decide) (by decide) (by decide) here)
  | record here _ ih => exact ih (within.past (by decide) (by decide) (by decide) here)
  | noItem here => exact ⟨depth, within.past (by decide) (by decide) (by decide) here⟩
  | item here _ _ value_ih items_ih =>
      obtain ⟨depth, within⟩ := value_ih (here.within within)
      exact items_ih within
  | noMember here => exact ⟨depth, within.past (by decide) (by decide) (by decide) here⟩
  | member here quoted key_spelled colon_spelled _ _ value_ih members_ih =>
      have spaced := (here.within within).spaced
      rw [key_spelled] at spaced
      obtain ⟨-, depth, within⟩ := quoted.within_of_within spaces spaced
      obtain ⟨depth, within⟩ :=
        value_ih (within.past (by decide) (by decide) (by decide) colon_spelled)
      exact members_ih within

end Reversed

end Accounts.Json
