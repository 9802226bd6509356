import Accounts.Json.Ignored
import Accounts.Json.Scalars
import Accounts.Proofs.Json.Grammar
import Accounts.Proofs.Json.Strings
import Accounts.Proofs.Json.Numerals
import Mathlib.Data.List.Basic

/-! Strings, numerals and words are read exactly as the grammar has them. -/

namespace Accounts.Json

open Text

variable {α β : Type}

theorem bind_eq_ok {reader : Reader α} {next : α → Reader β} {text rest : List UInt8} {value : β} :
    (reader >>= next) text = .ok (value, rest) ↔
      ∃ first middle, reader text = .ok (first, middle) ∧
        next first middle = .ok (value, rest) := by
  constructor
  · intro read
    cases started : reader text with
    | error fault =>
        have failed : (reader >>= next) text = .error fault := by
          change Except.bind (reader text) _ = _
          rw [started]
          rfl
        rw [failed] at read
        contradiction
    | ok taken =>
        obtain ⟨first, middle⟩ := taken
        rw [bind_of_ok started] at read
        exact ⟨first, middle, rfl, read⟩
  · rintro ⟨first, middle, started, read⟩
    rw [bind_of_ok started]
    exact read

theorem map_eq_ok {f : α → β} {reader : Reader α} {text rest : List UInt8} {value : β} :
    (f <$> reader) text = .ok (value, rest) ↔
      ∃ read, reader text = .ok (read, rest) ∧ f read = value := by
  constructor
  · intro mapped
    cases started : reader text with
    | error fault =>
        have failed : (f <$> reader) text = .error fault := by
          change Except.bind (reader text) _ = _
          rw [started]
          rfl
        rw [failed] at mapped
        contradiction
    | ok taken =>
        obtain ⟨read, behind⟩ := taken
        rw [map_of_ok f started] at mapped
        obtain ⟨rfl, rfl⟩ := Prod.mk.inj (Except.ok.inj mapped)
        exact ⟨read, rfl, rfl⟩
  · rintro ⟨read, started, rfl⟩
    exact map_of_ok f started

theorem seqRight_eq_ok {reader : Reader α} {next : Reader β} {text rest : List UInt8} {value : β} :
    (reader *> next) text = .ok (value, rest) ↔
      ∃ first middle, reader text = .ok (first, middle) ∧ next middle = .ok (value, rest) :=
  bind_eq_ok

/-! Strings. -/

inductive StringMode.Pending : StringMode → List UInt8 → Prop
  | plain : Pending .plain []
  | escape : Pending .escape [0x5C]
  | code {digits : List UInt8} (few : digits.length ≤ 3) :
      Pending (.code digits) (0x5C :: 0x75 :: digits.reverse)
  | paired {a b c d : UInt8} {lead : Nat} (leading : hexNumber [d, c, b, a] = some lead)
      (isLead : IsLead lead) : Pending (.paired lead) [0x5C, 0x75, a, b, c, d]
  | pairedEscape {a b c d : UInt8} {lead : Nat} (leading : hexNumber [d, c, b, a] = some lead)
      (isLead : IsLead lead) : Pending (.pairedEscape lead) [0x5C, 0x75, a, b, c, d, 0x5C]
  | pairedCode {a b c d : UInt8} {lead : Nat} {digits : List UInt8}
      (leading : hexNumber [d, c, b, a] = some lead) (isLead : IsLead lead)
      (few : digits.length ≤ 3) : Pending (.pairedCode lead digits)
        ([0x5C, 0x75, a, b, c, d, 0x5C, 0x75] ++ digits.reverse)

theorem eq_three_of_length {digits : List UInt8} (few : digits.length ≤ 3)
    (enough : ¬ digits.length < 3) : ∃ c b a, digits = [c, b, a] := by
  have three : digits.length = 3 := Nat.le_antisymm few (Nat.le_of_not_lt enough)
  exact List.length_eq_three.mp three

def StringMode.Advances (pending : List UInt8) (byte : UInt8) (more : List UInt8)
    (next : StringMode) : Prop :=
  (more = [] ∧ next.Pending (pending ++ [byte])) ∨
  (next = .plain ∧ ∀ body bytes, Denotes body bytes →
    Denotes (pending ++ byte :: body) (more ++ bytes))

theorem StringMode.advances_code {next : StringMode} {digits more : List UInt8} {byte : UInt8}
    (few : digits.length ≤ 3) (stepped : (StringMode.code digits).step byte = .ok (more, next)) :
    Advances (0x5C :: 0x75 :: digits.reverse) byte more next := by
  simp only [StringMode.step] at stepped
  split at stepped
  next short =>
    obtain ⟨rfl, rfl⟩ := Prod.mk.inj (Except.ok.inj stepped)
    refine .inl ⟨rfl, ?_⟩
    have longer : Pending (.code (byte :: digits)) _ := .code short
    simpa using longer
  next enough =>
    obtain ⟨c, b, a, rfl⟩ := eq_three_of_length few enough
    cases number : hexNumber [byte, c, b, a] with
    | none =>
        rw [number] at stepped
        contradiction
    | some code =>
        rw [number, Option.elim_some] at stepped
        split at stepped
        · contradiction
        next notTrail =>
          split at stepped
          next isLead =>
            obtain ⟨rfl, rfl⟩ := Prod.mk.inj (Except.ok.inj stepped)
            exact .inl ⟨rfl, .paired number isLead⟩
          next notLead =>
            obtain ⟨rfl, rfl⟩ := Prod.mk.inj (Except.ok.inj stepped)
            exact .inr ⟨rfl, fun body bytes denotes => .code number notLead notTrail denotes⟩

theorem StringMode.advances_pairedCode {next : StringMode} {digits more : List UInt8}
    {a b c d byte : UInt8} {lead : Nat} (leading : hexNumber [d, c, b, a] = some lead)
    (isLead : IsLead lead) (few : digits.length ≤ 3)
    (stepped : (StringMode.pairedCode lead digits).step byte = .ok (more, next)) :
    Advances ([0x5C, 0x75, a, b, c, d, 0x5C, 0x75] ++ digits.reverse) byte more next := by
  simp only [StringMode.step] at stepped
  split at stepped
  next short =>
    obtain ⟨rfl, rfl⟩ := Prod.mk.inj (Except.ok.inj stepped)
    refine .inl ⟨rfl, ?_⟩
    have longer : Pending (.pairedCode _ (byte :: digits)) _ := .pairedCode leading isLead short
    simpa using longer
  next enough =>
    obtain ⟨g, f, e, rfl⟩ := eq_three_of_length few enough
    cases number : hexNumber [byte, g, f, e] with
    | none =>
        rw [number] at stepped
        contradiction
    | some code =>
        rw [number, Option.elim_some] at stepped
        split at stepped
        next isTrail =>
          obtain ⟨rfl, rfl⟩ := Prod.mk.inj (Except.ok.inj stepped)
          exact .inr ⟨rfl, fun body bytes denotes =>
            .pair leading isLead number isTrail denotes⟩
        next => contradiction

/-- One byte either leaves more pending, or it completes what stands for some bytes. -/
theorem StringMode.Pending.step {mode next : StringMode} {pending more : List UInt8} {byte : UInt8}
    (waiting : mode.Pending pending) (inside : mode = .plain → byte ≠ 0x22)
    (stepped : mode.step byte = .ok (more, next)) : Advances pending byte more next := by
  cases waiting with
  | plain =>
      simp only [StringMode.step] at stepped
      split at stepped
      next same =>
        obtain ⟨rfl, rfl⟩ := Prod.mk.inj (Except.ok.inj stepped)
        exact .inl ⟨rfl, same ▸ .escape⟩
      next notBackslash =>
        split at stepped
        · contradiction
        next printable =>
          obtain ⟨rfl, rfl⟩ := Prod.mk.inj (Except.ok.inj stepped)
          exact .inr ⟨rfl, fun body bytes denotes =>
            .plain printable (inside rfl) notBackslash denotes⟩
  | escape =>
      simp only [StringMode.step] at stepped
      split at stepped
      next same =>
        obtain ⟨rfl, rfl⟩ := Prod.mk.inj (Except.ok.inj stepped)
        exact .inl ⟨rfl, same ▸ .code (Nat.zero_le 3)⟩
      next =>
        cases stands : escapedByte byte with
        | none =>
            rw [stands] at stepped
            contradiction
        | some escaped =>
            rw [stands] at stepped
            obtain ⟨rfl, rfl⟩ := Prod.mk.inj (Except.ok.inj stepped)
            exact .inr ⟨rfl, fun body bytes denotes => .escape stands denotes⟩
  | code few => exact advances_code few stepped
  | paired leading isLead =>
      simp only [StringMode.step] at stepped
      split at stepped
      next same =>
        obtain ⟨rfl, rfl⟩ := Prod.mk.inj (Except.ok.inj stepped)
        exact .inl ⟨rfl, same ▸ .pairedEscape leading isLead⟩
      next => contradiction
  | pairedEscape leading isLead =>
      simp only [StringMode.step] at stepped
      split at stepped
      next same =>
        obtain ⟨rfl, rfl⟩ := Prod.mk.inj (Except.ok.inj stepped)
        refine .inl ⟨rfl, ?_⟩
        have opened : Pending (.pairedCode _ []) _ := .pairedCode leading isLead (Nat.zero_le 3)
        exact same ▸ opened
      next => contradiction
  | pairedCode leading isLead few => exact advances_pairedCode leading isLead few stepped

theorem denotes_of_stringFrom {mode : StringMode} {pending done text bytes rest : List UInt8}
    (waiting : mode.Pending pending) (read : stringFrom done mode text = .ok (bytes, rest)) :
    ∃ body more, text = body ++ 0x22 :: rest ∧ bytes = done.reverse ++ more ∧
      Denotes (pending ++ body) more := by
  -- What is pending is carried along: an escape counts once its last byte has been read.
  induction text generalizing mode pending done with
  | nil => contradiction
  | cons byte text ih =>
      by_cases closing : mode = .plain ∧ byte = 0x22
      · obtain ⟨rfl, rfl⟩ := closing
        cases waiting
        obtain ⟨rfl, rfl⟩ := Prod.mk.inj (Except.ok.inj read)
        exact ⟨[], [], rfl, (List.append_nil _).symm, .nil⟩
      · have inside : mode = .plain → byte ≠ 0x22 := fun plain quote => closing ⟨plain, quote⟩
        cases stepped : mode.step byte with
        | error fault =>
            rw [stringFrom_fault inside stepped] at read
            contradiction
        | ok taken =>
            obtain ⟨more, next⟩ := taken
            rw [stringFrom_step inside stepped] at read
            rcases waiting.step inside stepped with ⟨rfl, later⟩ | ⟨rfl, completes⟩
            · obtain ⟨body, more, rfl, same, denotes⟩ := ih later read
              refine ⟨byte :: body, more, rfl, same, ?_⟩
              rw [List.append_assoc] at denotes
              exact denotes
            · obtain ⟨body, behind, rfl, same, denotes⟩ := ih .plain read
              refine ⟨byte :: body, more ++ behind, rfl, ?_, completes body behind denotes⟩
              rw [same, List.reverse_append, List.reverse_reverse, List.append_assoc]

theorem stringFrom_of_denotes {body bytes : List UInt8} (denotes : Denotes body bytes)
    (done rest : List UInt8) :
    stringFrom done .plain (body ++ 0x22 :: rest) = .ok (done.reverse ++ bytes, rest) := by
  induction denotes generalizing done with
  | nil =>
      rw [List.append_nil]
      rfl
  | plain printable notQuote notBackslash _ ih =>
      have stepped := stringFrom_plain notQuote notBackslash
        (Nat.le_of_not_lt fun low => printable (UInt8.lt_iff_toNat_lt.mpr low)) done
      rw [List.cons_append, stepped, ih]
      simp
  | @escape letter byte body bytes stands _ ih =>
      have notCode : letter ≠ 0x75 := by
        rintro rfl
        contradiction
      rw [List.cons_append, List.cons_append, stringFrom_escape notCode stands, ih]
      simp
  | code digits notLead notTrail _ ih =>
      simp only [List.cons_append]
      rw [stringFrom_code digits notTrail notLead, ih]
      simp
  | pair leading isLead trailing isTrail _ ih =>
      simp only [List.cons_append]
      rw [stringFrom_pair leading isLead trailing isTrail, ih]
      simp

theorem stringTail_eq_ok {text rest : List UInt8} {value : String} :
    stringTail text = .ok (value, rest) ↔
      ∃ body, Says body value ∧ text = body ++ 0x22 :: rest := by
  constructor
  · intro read
    unfold stringTail at read
    split at read
    · contradiction
    next bytes behind started =>
      split at read
      · contradiction
      next decoded =>
        obtain ⟨rfl, rfl⟩ := Prod.mk.inj (Except.ok.inj read)
        obtain ⟨body, more, rfl, same, denotes⟩ := denotes_of_stringFrom .plain started
        obtain rfl : more = utf8 _ := same.symm.trans (utf8_eq_of_ofUtf8? decoded)
        exact ⟨body, denotes, rfl⟩
  · rintro ⟨body, said, rfl⟩
    rw [stringTail, stringFrom_of_denotes said]
    simp only [List.reverse_nil, List.nil_append, ofUtf8?_utf8]

/-! Passing over strings. -/

inductive PassMode.Pending : PassMode → List UInt8 → Prop
  | plain : Pending .plain []
  | escape : Pending .escape [0x5C]
  | code {digits : List UInt8} (few : digits.length ≤ 3) :
      Pending (.code digits) (0x5C :: 0x75 :: digits.reverse)

theorem PassMode.Pending.step {mode next : PassMode} {pending : List UInt8} {byte : UInt8}
    (waiting : mode.Pending pending) (inside : mode = .plain → byte ≠ 0x22)
    (stepped : mode.step byte = .ok next) :
    next.Pending (pending ++ [byte]) ∨
    (next = .plain ∧ ∀ body, Quoted body → Quoted (pending ++ byte :: body)) := by
  cases waiting with
  | plain =>
      simp only [PassMode.step] at stepped
      split at stepped
      next same =>
        obtain rfl := Except.ok.inj stepped
        exact .inl (same ▸ .escape)
      next notBackslash =>
        split at stepped
        · contradiction
        next printable =>
          obtain rfl := Except.ok.inj stepped
          exact .inr ⟨rfl, fun body quoted => .plain printable (inside rfl) notBackslash quoted⟩
  | escape =>
      simp only [PassMode.step] at stepped
      split at stepped
      next same =>
        obtain rfl := Except.ok.inj stepped
        exact .inl (same ▸ .code (Nat.zero_le 3))
      next =>
        split at stepped
        next stands =>
          obtain rfl := Except.ok.inj stepped
          exact .inr ⟨rfl, fun body quoted => .escape stands quoted⟩
        next => contradiction
  | @code digits few =>
      simp only [PassMode.step] at stepped
      split at stepped
      next short =>
        obtain rfl := Except.ok.inj stepped
        refine .inl ?_
        have longer : Pending (.code (byte :: digits)) _ := .code short
        simpa using longer
      next enough =>
        obtain ⟨c, b, a, rfl⟩ := eq_three_of_length few enough
        split at stepped
        next isNumber =>
          obtain rfl := Except.ok.inj stepped
          exact .inr ⟨rfl, fun body quoted => .code isNumber quoted⟩
        next => contradiction

theorem quoted_of_passString {mode : PassMode} {pending text rest : List UInt8}
    (waiting : mode.Pending pending) (passed : passString mode text = .ok rest) :
    ∃ body, text = body ++ 0x22 :: rest ∧ Quoted (pending ++ body) := by
  induction text generalizing mode pending with
  | nil => contradiction
  | cons byte text ih =>
      by_cases closing : mode = .plain ∧ byte = 0x22
      · obtain ⟨rfl, rfl⟩ := closing
        cases waiting
        obtain rfl := Except.ok.inj passed
        exact ⟨[], rfl, .nil⟩
      · have inside : mode = .plain → byte ≠ 0x22 := fun plain quote => closing ⟨plain, quote⟩
        cases stepped : mode.step byte with
        | error fault =>
            rw [passString_fault inside stepped] at passed
            contradiction
        | ok next =>
            rw [passString_step inside stepped] at passed
            rcases waiting.step inside stepped with later | ⟨rfl, completes⟩
            · obtain ⟨body, rfl, quoted⟩ := ih later passed
              rw [List.append_assoc] at quoted
              exact ⟨byte :: body, rfl, quoted⟩
            · obtain ⟨body, rfl, quoted⟩ := ih .plain passed
              exact ⟨byte :: body, rfl, completes body quoted⟩

theorem passString_of_quoted {body : List UInt8} (quoted : Quoted body) (rest : List UInt8) :
    passString .plain (body ++ 0x22 :: rest) = .ok rest := by
  induction quoted with
  | nil => rfl
  | @plain byte body printable notQuote notBackslash _ ih =>
      have stepped : PassMode.plain.step byte = .ok .plain := by
        rw [PassMode.step, if_neg notBackslash, if_neg printable]
      rw [List.cons_append, passString_step (fun _ => notQuote) stepped, ih]
  | @escape letter body stands _ ih =>
      have notCode : letter ≠ 0x75 := by
        rintro rfl
        contradiction
      have opened : passString .plain (0x5C :: letter :: body ++ 0x22 :: rest) =
          passString .escape (letter :: (body ++ 0x22 :: rest)) := rfl
      have stepped : PassMode.escape.step letter = .ok .plain := by
        rw [PassMode.step, if_neg notCode, if_pos stands]
      rw [opened, passString_step (fun same => PassMode.noConfusion same) stepped, ih]
  | @code a b c d body digits _ ih =>
      have opened : passString .plain (0x5C :: 0x75 :: a :: b :: c :: d :: body ++ 0x22 :: rest) =
          passString (.code [c, b, a]) (d :: (body ++ 0x22 :: rest)) := rfl
      have stepped : (PassMode.code [c, b, a]).step d = .ok .plain := by
        rw [PassMode.step, if_neg (by simp), if_pos digits]
      rw [opened, passString_step (fun same => PassMode.noConfusion same) stepped, ih]

theorem passString_eq_ok {text rest : List UInt8} :
    passString .plain text = .ok rest ↔ ∃ body, Quoted body ∧ text = body ++ 0x22 :: rest := by
  constructor
  · intro passed
    obtain ⟨body, same, quoted⟩ := quoted_of_passString .plain passed
    exact ⟨body, quoted, same⟩
  · rintro ⟨body, quoted, rfl⟩
    exact passString_of_quoted quoted rest

/-! Numerals. -/

theorem someDigits_eq_ok {text digits rest : List UInt8} :
    someDigits text = .ok (digits, rest) ↔ SpellsDigits digits text rest := by
  constructor
  · intro read
    unfold someDigits at read
    rw [List.span_eq_takeWhile_dropWhile] at read
    split at read
    · contradiction
    · contradiction
    next taken behind notEnded nonempty same =>
      obtain ⟨rfl, rfl⟩ := Prod.mk.inj (Except.ok.inj read)
      obtain ⟨rfl, rfl⟩ := Prod.mk.inj same
      refine ⟨nonempty, ?_,
        List.takeWhile_append_dropWhile.symm, ?_⟩
      · exact List.all_eq_true.mp List.all_takeWhile
      · intro byte member
        have stopped := List.head?_dropWhile_not isDigit text
        rw [Option.mem_def.mp member] at stopped
        simpa using stopped
  · rintro ⟨nonempty, digit, rfl, ends⟩
    rw [someDigits, span_digits digit ends]
    obtain ⟨first, more, rfl⟩ := List.exists_cons_of_ne_nil nonempty
    rfl

theorem wholeDigits_eq_ok {text digits rest : List UInt8} :
    wholeDigits text = .ok (digits, rest) ↔
      SpellsDigits digits text rest ∧ (digits.head? = some 0x30 → digits = [0x30]) := by
  rw [wholeDigits, bind_eq_ok]
  constructor
  · rintro ⟨read, middle, started, checked⟩
    have spelled := someDigits_eq_ok.mp started
    split at checked
    · contradiction
    next notPadded =>
      obtain ⟨rfl, rfl⟩ := Prod.mk.inj (Except.ok.inj checked)
      refine ⟨spelled, ?_⟩
      intro zero
      rcases read with _ | ⟨first, _ | ⟨second, more⟩⟩
      · contradiction
      · rw [Option.some.inj zero]
      · obtain rfl := Option.some.inj zero
        exact absurd rfl (notPadded second more)
  · rintro ⟨spelled, unpadded⟩
    refine ⟨digits, rest, someDigits_eq_ok.mpr spelled, ?_⟩
    split
    next => exact absurd (unpadded rfl) (by simp)
    next => rfl

theorem fractionDigits_eq_ok {text rest : List UInt8} {digits : Option (List UInt8)} :
    fractionDigits text = .ok (digits, rest) ↔ SpellsFraction digits text rest := by
  constructor
  · intro read
    unfold fractionDigits at read
    split at read
    next behind =>
      obtain ⟨digits, started, rfl⟩ := map_eq_ok.mp read
      exact .point (someDigits_eq_ok.mp started)
    next noPoint =>
      obtain ⟨rfl, rfl⟩ := Prod.mk.inj (Except.ok.inj read)
      refine .none ?_
      rintro byte member rfl
      obtain ⟨more, rfl⟩ := List.head?_eq_some_iff.mp (Option.mem_def.mp member)
      exact noPoint more rfl
  · rintro (⟨spelled⟩ | noPoint)
    · rw [fractionDigits]
      exact map_of_ok some (someDigits_eq_ok.mpr spelled)
    · rw [fractionDigits]
      rintro more rfl
      exact noPoint 0x2E rfl rfl

theorem SpellsDigits.ne_cons {digits text rest : List UInt8} {byte : UInt8}
    (spelled : SpellsDigits digits text rest) (notDigit : isDigit byte = false) :
    ∀ more, text ≠ byte :: more := by
  obtain ⟨nonempty, digit, rfl, -⟩ := spelled
  intro more same
  obtain ⟨first, others, rfl⟩ := List.exists_cons_of_ne_nil nonempty
  obtain ⟨rfl, -⟩ := List.cons.inj same
  rw [digit first List.mem_cons_self] at notDigit
  contradiction

theorem exponentDigits_eq_ok {text rest : List UInt8} {exponent : Option (Bool × List UInt8)} :
    exponentDigits text = .ok (exponent, rest) ↔ SpellsExponent exponent text rest := by
  constructor
  · intro read
    unfold exponentDigits at read
    split at read
    next byte behind =>
      split at read
      next isMark =>
        split at read
        · obtain ⟨digits, started, rfl⟩ := map_eq_ok.mp read
          exact .plus isMark (someDigits_eq_ok.mp started)
        · obtain ⟨digits, started, rfl⟩ := map_eq_ok.mp read
          exact .minus isMark (someDigits_eq_ok.mp started)
        · obtain ⟨digits, started, rfl⟩ := map_eq_ok.mp read
          exact .unsigned isMark (someDigits_eq_ok.mp started)
      next notMark =>
        obtain ⟨rfl, rfl⟩ := Prod.mk.inj (Except.ok.inj read)
        refine .none ?_
        intro other member
        obtain rfl := Option.some.inj member
        exact notMark
    next =>
      obtain ⟨rfl, rfl⟩ := Prod.mk.inj (Except.ok.inj read)
      exact .none nofun
  · intro spelled
    cases spelled with
    | @plus mark _ _ _ isMark digits_spelled =>
        have isMark : mark = 0x65 ∨ mark = 0x45 := isMark
        rw [exponentDigits, if_pos isMark]
        exact map_of_ok _ (someDigits_eq_ok.mpr digits_spelled)
    | @minus mark _ _ _ isMark digits_spelled =>
        have isMark : mark = 0x65 ∨ mark = 0x45 := isMark
        rw [exponentDigits, if_pos isMark]
        exact map_of_ok _ (someDigits_eq_ok.mpr digits_spelled)
    | @unsigned mark _ _ _ isMark digits_spelled =>
        have isMark : mark = 0x65 ∨ mark = 0x45 := isMark
        rw [exponentDigits, if_pos isMark]
        · exact map_of_ok _ (someDigits_eq_ok.mpr digits_spelled)
        · exact digits_spelled.ne_cons rfl
        · exact digits_spelled.ne_cons rfl
    | none noMark =>
        unfold exponentDigits
        split
        next byte behind =>
          have other : ¬ (byte = 0x65 ∨ byte = 0x45) := noMark byte rfl
          rw [if_neg other]
        next => rfl

theorem minusSign_eq_ok {text rest : List UInt8} {negative : Bool} :
    minusSign text = .ok (negative, rest) ↔ SpellsSign negative text rest := by
  constructor
  · intro read
    unfold minusSign at read
    split at read
    next =>
      obtain ⟨rfl, rfl⟩ := Prod.mk.inj (Except.ok.inj read)
      exact .minus
    next noMinus =>
      obtain ⟨rfl, rfl⟩ := Prod.mk.inj (Except.ok.inj read)
      refine .none ?_
      rintro byte member rfl
      obtain ⟨more, rfl⟩ := List.head?_eq_some_iff.mp (Option.mem_def.mp member)
      exact noMinus more rfl
  · rintro (_ | noMinus)
    · rfl
    · rw [minusSign]
      rintro more rfl
      exact noMinus 0x2D rfl rfl

theorem numeral_eq_ok {text rest : List UInt8} {n : Numeral} :
    numeral text = .ok (n, rest) ↔ SpellsNumeral n text rest := by
  constructor
  · intro read
    obtain ⟨negative, unsigned, sign, read⟩ := bind_eq_ok.mp read
    obtain ⟨whole, behind, digits, read⟩ := bind_eq_ok.mp read
    obtain ⟨fraction, mantissa, point, read⟩ := bind_eq_ok.mp read
    obtain ⟨exponent, end_, mark, read⟩ := bind_eq_ok.mp read
    obtain ⟨rfl, rfl⟩ := Prod.mk.inj (Except.ok.inj read)
    obtain ⟨digits_spelled, unpadded⟩ := wholeDigits_eq_ok.mp digits
    exact ⟨unsigned, behind, mantissa, minusSign_eq_ok.mp sign, digits_spelled, unpadded,
      fractionDigits_eq_ok.mp point, exponentDigits_eq_ok.mp mark⟩
  · rintro ⟨unsigned, behind, mantissa, sign, digits, unpadded, point, mark⟩
    rw [numeral, bind_of_ok (minusSign_eq_ok.mpr sign),
      bind_of_ok (wholeDigits_eq_ok.mpr ⟨digits, unpadded⟩),
      bind_of_ok (fractionDigits_eq_ok.mpr point), bind_of_ok (exponentDigits_eq_ok.mpr mark)]
    rfl

theorem SpellsNumeral.starts {n : Numeral} {text rest : List UInt8}
    (spelled : SpellsNumeral n text rest) :
    ∃ first more, text = first :: more ∧ startsNumeral first = true := by
  obtain ⟨unsigned, behind, mantissa, sign, ⟨nonempty, digit, same, -⟩, -⟩ := spelled
  generalize n.negative = negative at sign
  cases sign with
  | minus => exact ⟨_, _, rfl, rfl⟩
  | none =>
      obtain ⟨first, more, whole⟩ := List.exists_cons_of_ne_nil nonempty
      rw [whole] at same digit
      refine ⟨first, more ++ behind, same, ?_⟩
      rw [startsNumeral, digit first List.mem_cons_self]
      exact Bool.or_true _

/-! Words. -/

theorem word_eq_ok {letters text rest : List UInt8} :
    word letters text = .ok ((), rest) ↔ text = letters ++ rest := by
  induction letters generalizing text with
  | nil =>
      constructor
      · intro read
        exact (Prod.mk.inj (Except.ok.inj read)).2
      · rintro rfl
        rfl
  | cons letter letters ih =>
      cases text with
      | nil => exact ⟨nofun, nofun⟩
      | cons byte text =>
          change (if byte = letter then word letters text else .error .malformed) = _ ↔ _
          by_cases same : byte = letter
          · subst same
            rw [if_pos rfl, ih, List.cons_append, List.cons.injEq]
            exact (and_iff_right rfl).symm
          · rw [if_neg same, List.cons_append, List.cons.injEq]
            exact ⟨nofun, fun both => absurd both.1 same⟩

theorem mark_eq_ok {byte : UInt8} {text rest : List UInt8} :
    mark byte text = .ok ((), rest) ↔ afterSpace text = byte :: rest := by
  unfold mark
  split
  next empty => exact ⟨nofun, fun same => by rw [empty] at same; contradiction⟩
  next other behind here =>
    rw [here, List.cons.injEq]
    split
    next same =>
      rw [Except.ok.injEq, Prod.mk.injEq]
      exact ⟨fun both => ⟨same, both.2⟩, fun both => ⟨rfl, both.2⟩⟩
    next differs => exact ⟨nofun, fun both => absurd both.1 differs⟩

/-! What a value begins with. -/

def Tree.startsWith (byte : UInt8) : Tree → Bool
  | .null => byte == 0x6E
  | .boolean value => byte == if value then 0x74 else 0x66
  | .number _ => startsNumeral byte
  | .text _ => byte == 0x22
  | .list _ => byte == 0x5B
  | .record _ => byte == 0x7B

theorem Spells.starts {tree : Tree} {text rest : List UInt8}
    (spells : Spells (.value tree) text rest) :
    ∃ byte more, afterSpace text = byte :: more ∧ tree.startsWith byte = true := by
  cases spells with
  | null here => exact ⟨_, _, here, rfl⟩
  | @boolean value _ _ here =>
      cases value with
      | true => exact ⟨_, _, here, rfl⟩
      | false => exact ⟨_, _, here, rfl⟩
  | number here => exact here.starts
  | text _ here => exact ⟨_, _, here, rfl⟩
  | list here => exact ⟨_, _, here, rfl⟩
  | record here => exact ⟨_, _, here, rfl⟩

theorem Spells.startsWith {tree : Tree} {text more rest : List UInt8} {byte : UInt8}
    (spells : Spells (.value tree) text rest) (here : afterSpace text = byte :: more) :
    tree.startsWith byte = true := by
  obtain ⟨first, others, same, starts⟩ := spells.starts
  obtain rfl := (List.cons.inj (here.symm.trans same)).1
  exact starts

namespace Tree

variable {tree : Tree}

theorem eq_null_of_startsWith (starts : tree.startsWith 0x6E = true) : tree = .null := by
  cases tree with
  | null => rfl
  | boolean value =>
      cases value with
      | true => contradiction
      | false => contradiction
  | _ => contradiction

theorem exists_list_of_startsWith (starts : tree.startsWith 0x5B = true) :
    ∃ items, tree = .list items := by
  cases tree with
  | list items => exact ⟨items, rfl⟩
  | boolean value =>
      cases value with
      | true => contradiction
      | false => contradiction
  | _ => contradiction

theorem exists_record_of_startsWith (starts : tree.startsWith 0x7B = true) :
    ∃ members, tree = .record members := by
  cases tree with
  | record members => exact ⟨members, rfl⟩
  | boolean value =>
      cases value with
      | true => contradiction
      | false => contradiction
  | _ => contradiction

theorem ne_of_startsWith {byte : UInt8} (starts : tree.startsWith byte = true) :
    byte ≠ 0x2C ∧ byte ≠ 0x5D ∧ byte ≠ 0x7D := by
  cases tree with
  | number numeral =>
      exact ⟨ne_of_startsNumeral starts rfl, ne_of_startsNumeral starts rfl,
        ne_of_startsNumeral starts rfl⟩
  | boolean value =>
      obtain rfl := eq_of_beq starts
      cases value with
      | true => decide
      | false => decide
  | _ =>
      obtain rfl := eq_of_beq starts
      decide

end Tree

end Accounts.Json
