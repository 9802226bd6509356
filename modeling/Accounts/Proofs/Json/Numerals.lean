import Accounts.Json.Attempts
import Accounts.Json.Ignored
import Accounts.Proofs.Text.Utf8
import Mathlib.Data.List.TakeDrop

/-! How readers that follow one another take a text apart, and how integers are read back from their
decimal spelling. -/

namespace Accounts.Json

section Readers

variable {α β : Type}

theorem bind_of_ok {reader : Reader α} {next : α → Reader β} {text rest : List UInt8} {value : α}
    (read : reader text = .ok (value, rest)) : (reader >>= next) text = next value rest := by
  change Except.bind (reader text) (fun taken => next taken.1 taken.2) = next value rest
  rw [read]
  rfl

theorem map_of_ok (f : α → β) {reader : Reader α} {text rest : List UInt8} {value : α}
    (read : reader text = .ok (value, rest)) : (f <$> reader) text = .ok (f value, rest) := by
  change Except.bind (reader text) (fun taken => .ok (f taken.1, taken.2)) = .ok (f value, rest)
  rw [read]
  rfl

theorem seqRight_of_ok {reader : Reader α} {next : Reader β} {text rest : List UInt8} {value : α}
    (read : reader text = .ok (value, rest)) : (reader *> next) text = next rest := by
  change Except.bind (reader text) (fun taken => next taken.2) = next rest
  rw [read]
  rfl

theorem pure_read (value : α) (text : List UInt8) :
    (pure value : Reader α) text = .ok (value, text) := rfl

theorem afterSpace_cons {byte : UInt8} (notSpace : isSpace byte = false) (rest : List UInt8) :
    afterSpace (byte :: rest) = byte :: rest := by
  rw [afterSpace, List.dropWhile_cons, notSpace]
  rfl

theorem afterSpace_space {byte : UInt8} (space : isSpace byte = true) (rest : List UInt8) :
    afterSpace (byte :: rest) = afterSpace rest := by
  rw [afterSpace, List.dropWhile_cons, space]
  rfl

theorem mark_cons {byte : UInt8} (notSpace : isSpace byte = false) (rest : List UInt8) :
    mark byte (byte :: rest) = .ok ((), rest) := by
  rw [mark, afterSpace_cons notSpace]
  exact if_pos rfl

theorem readAll_of_ok {reader : Reader α} {text : List UInt8} {value : α}
    (read : reader text = .ok (value, [])) : readAll reader text = .ok value := by
  rw [readAll, read]
  rfl

/-- Whether a value may end before some bytes: before a comma or a closing bracket, or where the
text ends. -/
def Ends (rest : List UInt8) : Prop := ∀ byte ∈ rest.head?, byte = 0x2C ∨ byte = 0x5D ∨ byte = 0x7D

theorem ends_nil : Ends [] := nofun

theorem ends_comma (rest : List UInt8) : Ends (0x2C :: rest) := by
  intro byte member
  exact .inl (Option.some.inj member).symm

theorem ends_brace (rest : List UInt8) : Ends (0x7D :: rest) := by
  intro byte member
  exact .inr (.inr (Option.some.inj member).symm)

end Readers

/-! Integers. -/

open Text

/-! The digits of a number. -/

def digitBytes (n : Nat) : List UInt8 := spell (decimal n)

theorem utf8EncodeChar_digitChar {n : Nat} (small : n < 10) :
    String.utf8EncodeChar (Nat.digitChar n) = [UInt8.ofNat (0x30 + n)] := by
  have code := Nat.toNat_digitChar_of_lt_ten small
  rw [utf8EncodeChar_ascii (by omega), code]

theorem digitBytes_of_lt {n : Nat} (small : n < 10) : digitBytes n = [UInt8.ofNat (0x30 + n)] := by
  rw [digitBytes, decimal, Nat.toDigits_of_lt_base small, spell_cons, spell_nil,
    utf8EncodeChar_digitChar small]
  rfl

theorem digitBytes_of_le {n : Nat} (large : 10 ≤ n) :
    digitBytes n = digitBytes (n / 10) ++ [UInt8.ofNat (0x30 + n % 10)] := by
  rw [digitBytes, decimal, Nat.toDigits_of_base_le (by decide) large, spell_append, spell_cons,
    spell_nil, utf8EncodeChar_digitChar (Nat.mod_lt n (by decide))]
  rfl

theorem digitBytes_isDigit (n : Nat) : ∀ byte ∈ digitBytes n, isDigit byte = true := by
  have digit : ∀ n < 10, isDigit (UInt8.ofNat (0x30 + n)) = true := by decide
  induction n using Nat.strongRecOn with
  | ind n ih =>
      intro byte member
      by_cases small : n < 10
      · rw [digitBytes_of_lt small, List.mem_singleton] at member
        rw [member]
        exact digit n small
      · rw [digitBytes_of_le (by omega), List.mem_append, List.mem_singleton] at member
        rcases member with earlier | rfl
        · exact ih (n / 10) (by omega) byte earlier
        · exact digit (n % 10) (Nat.mod_lt n (by decide))

theorem ofDigits_concat (digits : List UInt8) (digit : UInt8) :
    ofDigits (digits ++ [digit]) = ofDigits digits * 10 + (digit.toNat - 0x30) := by
  rw [ofDigits, List.foldl_append]
  rfl

theorem ofDigits_digitBytes (n : Nat) : ofDigits (digitBytes n) = n := by
  have value : ∀ n < 10, (UInt8.ofNat (0x30 + n)).toNat - 0x30 = n := by decide
  induction n using Nat.strongRecOn with
  | ind n ih =>
      by_cases small : n < 10
      · rw [digitBytes_of_lt small]
        have single := ofDigits_concat [] (UInt8.ofNat (0x30 + n))
        rw [value n small] at single
        rw [← List.nil_append [UInt8.ofNat (0x30 + n)], single]
        exact Nat.zero_add n
      · rw [digitBytes_of_le (by omega), ofDigits_concat, ih (n / 10) (by omega),
          value (n % 10) (Nat.mod_lt n (by decide))]
        omega

theorem digitBytes_ne_nil (n : Nat) : digitBytes n ≠ [] := by
  by_cases small : n < 10
  · rw [digitBytes_of_lt small]
    exact List.cons_ne_nil _ _
  · rw [digitBytes_of_le (by omega)]
    exact List.append_ne_nil_of_right_ne_nil _ (List.cons_ne_nil _ _)

theorem head?_digitBytes {n : Nat} (positive : 0 < n) : (digitBytes n).head? ≠ some 0x30 := by
  have nonzero : ∀ n < 10, 0 < n → UInt8.ofNat (0x30 + n) ≠ 0x30 := by decide
  induction n using Nat.strongRecOn with
  | ind n ih =>
      by_cases small : n < 10
      · rw [digitBytes_of_lt small]
        intro same
        exact nonzero n small positive (Option.some.inj same)
      · have earlier := ih (n / 10) (by omega) (by omega)
        obtain ⟨first, more, same⟩ := List.exists_cons_of_ne_nil (digitBytes_ne_nil (n / 10))
        rw [same] at earlier
        rw [digitBytes_of_le (by omega), same]
        exact earlier

theorem digitBytes_ne_zero_cons (n : Nat) (digit : UInt8) (rest : List UInt8) :
    digitBytes n ≠ 0x30 :: digit :: rest := by
  intro same
  by_cases zero : n = 0
  · subst zero
    rw [digitBytes_of_lt (by decide)] at same
    exact absurd (List.cons.inj same).2 (List.cons_ne_nil digit rest).symm
  · apply head?_digitBytes (Nat.pos_of_ne_zero zero)
    rw [same]
    rfl

theorem length_digitBytes_le {n places : Nat} (fits : n < Nat.pow 10 (places + 1)) :
    (digitBytes n).length ≤ places + 1 := by
  induction places generalizing n with
  | zero =>
      rw [digitBytes_of_lt fits]
      exact Nat.le_refl 1
  | succ places ih =>
      by_cases small : n < 10
      · rw [digitBytes_of_lt small]
        exact Nat.succ_le_succ (Nat.zero_le _)
      · have tenth : n < Nat.pow 10 (places + 1) * 10 := fits
        have earlier : n / 10 < Nat.pow 10 (places + 1) := by omega
        rw [digitBytes_of_le (by omega), List.length_append, List.length_singleton]
        exact Nat.succ_le_succ (ih earlier)

/-! The parts of a numeral. -/

theorem span_digits {digits rest : List UInt8} (digit : ∀ byte ∈ digits, isDigit byte = true)
    (ends : ∀ byte ∈ rest.head?, isDigit byte = false) :
    (digits ++ rest).span isDigit = (digits, rest) := by
  rw [List.span_eq_takeWhile_dropWhile, List.takeWhile_append_of_pos digit,
    List.dropWhile_append_of_pos digit]
  cases rest with
  | nil => simp
  | cons byte rest =>
      have notDigit := ends byte rfl
      simp [notDigit]

def numeralOf (n : Int) : Numeral where
  negative := decide (n < 0)
  whole := digitBytes n.natAbs
  fraction := none
  exponent := none

theorem someDigits_print (n : Nat) {rest : List UInt8} (ends : Ends rest) :
    someDigits (digitBytes n ++ rest) = .ok (digitBytes n, rest) := by
  have notDigit : ∀ byte ∈ rest.head?, isDigit byte = false := by
    intro byte member
    rcases ends byte member with rfl | rfl | rfl
    · rfl
    · rfl
    · rfl
  rw [someDigits, span_digits (digitBytes_isDigit n) notDigit]
  obtain ⟨first, more, same⟩ := List.exists_cons_of_ne_nil (digitBytes_ne_nil n)
  rw [same]

theorem wholeDigits_print (n : Nat) {rest : List UInt8} (ends : Ends rest) :
    wholeDigits (digitBytes n ++ rest) = .ok (digitBytes n, rest) := by
  rw [wholeDigits, bind_of_ok (someDigits_print n ends)]
  cases same : digitBytes n with
  | nil => rfl
  | cons first more =>
      by_cases zero : first = 0x30
      · subst zero
        cases more with
        | nil => rfl
        | cons second more => exact absurd same (digitBytes_ne_zero_cons n second more)
      · simp [zero, pure_read]

theorem fractionDigits_of_ends {rest : List UInt8} (ends : Ends rest) :
    fractionDigits rest = .ok (none, rest) := by
  rw [fractionDigits]
  intro more same
  subst same
  rcases ends 0x2E rfl with comma | bracket | brace
  · contradiction
  · contradiction
  · contradiction

theorem exponentDigits_of_ends {rest : List UInt8} (ends : Ends rest) :
    exponentDigits rest = .ok (none, rest) := by
  unfold exponentDigits
  split
  next byte more =>
    have other : ¬ (byte = 0x65 ∨ byte = 0x45) := by
      rcases ends byte rfl with rfl | rfl | rfl
      · decide
      · decide
      · decide
    rw [if_neg other]
  next => rfl

theorem minusSign_print (n : Nat) (rest : List UInt8) :
    minusSign (digitBytes n ++ rest) = .ok (false, digitBytes n ++ rest) := by
  obtain ⟨first, more, same⟩ := List.exists_cons_of_ne_nil (digitBytes_ne_nil n)
  have digit := digitBytes_isDigit n first (same ▸ List.mem_cons_self)
  rw [same, List.cons_append, minusSign]
  intro more' minus
  obtain ⟨rfl, -⟩ := List.cons.inj minus
  contradiction

theorem spell_signedDecimal (n : Int) : spell (signedDecimal n) =
    if n < 0 then 0x2D :: digitBytes n.natAbs else digitBytes n.natAbs := by
  unfold signedDecimal
  split
  · rfl
  · rfl

theorem numeral_print (n : Int) {rest : List UInt8} (ends : Ends rest) :
    numeral (spell (signedDecimal n) ++ rest) = .ok (numeralOf n, rest) := by
  have sign : minusSign (spell (signedDecimal n) ++ rest) =
      .ok (decide (n < 0), digitBytes n.natAbs ++ rest) := by
    rw [spell_signedDecimal]
    by_cases negative : n < 0
    · rw [if_pos negative, decide_eq_true negative]
      rfl
    · rw [if_neg negative, decide_eq_false negative]
      exact minusSign_print n.natAbs rest
  rw [numeral, bind_of_ok sign, bind_of_ok (wholeDigits_print n.natAbs ends),
    bind_of_ok (fractionDigits_of_ends ends), bind_of_ok (exponentDigits_of_ends ends)]
  rfl

theorem startsNumeral_print (n : Int) : ∃ first more,
    spell (signedDecimal n) = first :: more ∧ startsNumeral first = true := by
  rw [spell_signedDecimal]
  split
  · exact ⟨_, _, rfl, rfl⟩
  · obtain ⟨first, more, same⟩ := List.exists_cons_of_ne_nil (digitBytes_ne_nil n.natAbs)
    refine ⟨first, more, same, ?_⟩
    rw [startsNumeral, digitBytes_isDigit n.natAbs first (same ▸ List.mem_cons_self)]
    exact Bool.or_true _

/-! The value of a numeral. -/

theorem le_foldl_digits (number : Nat) (digits : List UInt8) :
    number ≤ digits.foldl (fun number digit => number * 10 + (digit.toNat - 0x30)) number := by
  induction digits generalizing number with
  | nil => exact Nat.le_refl number
  | cons digit digits ih =>
      have later := ih (number * 10 + (digit.toNat - 0x30))
      rw [List.foldl_cons]
      omega

theorem appendDigits_eq (number count : Nat) {digits : List UInt8}
    (fits : digits.foldl (fun number digit => number * 10 + (digit.toNat - 0x30)) number ≤
      0xFFFFFFFFFFFFFFFF) :
    appendDigits number count digits =
      (digits.foldl (fun number digit => number * 10 + (digit.toNat - 0x30)) number,
        count + digits.length) := by
  induction digits generalizing number count with
  | nil => rfl
  | cons digit digits ih =>
      rw [List.foldl_cons] at fits
      have longer : number * 10 + (digit.toNat - 0x30) ≤ 0xFFFFFFFFFFFFFFFF :=
        Nat.le_trans (le_foldl_digits _ digits) fits
      rw [appendDigits]
      simp only [if_pos longer]
      rw [ih _ _ fits, List.foldl_cons, List.length_cons, Nat.add_right_comm, Nat.add_assoc]

theorem significand_numeralOf {n : Int} (fits : n.natAbs ≤ 0xFFFFFFFFFFFFFFFF) :
    (numeralOf n).significand = (n.natAbs, 0) := by
  have value := ofDigits_digitBytes n.natAbs
  have appended := appendDigits_eq 0 0 (value.symm ▸ fits)
  rw [ofDigits] at value
  rw [Numeral.significand, numeralOf]
  simp only [appended, value, Option.getD_none, appendDigits]
  simp

theorem numeralOf_finite {n : Int} (fits : n.natAbs ≤ 0xFFFFFFFFFFFFFFFF) :
    (numeralOf n).finite = true := by
  have unscaled : (numeralOf n).power = 0 := rfl
  rw [Numeral.finite, Numeral.double?, significand_numeralOf fits, unscaled]
  rfl

theorem numeralOf_wholeNumber? {n : Int} (least : -0x8000000000000000 ≤ n)
    (most : n < 0x8000000000000000) : (numeralOf n).wholeNumber? = some n := by
  have length : (digitBytes n.natAbs).length ≤ 20 := by
    have large : Nat.pow 10 (19 + 1) = 100000000000000000000 := rfl
    apply length_digitBytes_le
    rw [large]
    omega
  rw [Numeral.wholeNumber?, numeralOf]
  simp only [if_neg (Nat.not_lt.mpr length), ofDigits_digitBytes]
  by_cases negative : n < 0
  · rw [decide_eq_true negative, if_pos rfl, if_pos (by omega)]
    congr 1
    omega
  · rw [decide_eq_false negative, if_neg Bool.false_ne_true, if_pos (by omega)]
    congr 1
    omega

/-! The readers. -/

theorem ne_of_startsNumeral {byte other : UInt8} (starts : startsNumeral byte = true)
    (not : startsNumeral other = false) : byte ≠ other := by
  rintro rfl
  rw [starts] at not
  contradiction

theorem not_isSpace_of_startsNumeral {byte : UInt8} (starts : startsNumeral byte = true) :
    isSpace byte = false := by
  have differs : ∀ other, startsNumeral other = false → byte ≠ other :=
    fun other => ne_of_startsNumeral starts
  simp only [isSpace, Bool.or_eq_false_iff, beq_eq_false_iff_ne]
  exact ⟨⟨⟨differs _ rfl, differs _ rfl⟩, differs _ rfl⟩, differs _ rfl⟩

theorem finiteNumeral_print {n : Int} (fits : n.natAbs ≤ 0xFFFFFFFFFFFFFFFF) {rest : List UInt8}
    (ends : Ends rest) :
    finiteNumeral (spell (signedDecimal n) ++ rest) = .ok (numeralOf n, rest) := by
  rw [finiteNumeral, bind_of_ok (numeral_print n ends), numeralOf_finite fits]
  rfl

theorem attemptScalar?_numeral {first : UInt8} (starts : startsNumeral first = true)
    (more : List UInt8) : attemptScalar? first more = some (attemptNumber (first :: more)) := by
  have notNull : first ≠ 0x6E := ne_of_startsNumeral starts rfl
  have notTrue : first ≠ 0x74 := ne_of_startsNumeral starts rfl
  have notFalse : first ≠ 0x66 := ne_of_startsNumeral starts rfl
  rw [attemptScalar?, if_neg notNull, if_neg notTrue, if_neg notFalse, if_pos starts]

theorem attemptWith_of_scalar {inner : Option (Attempt Value)} {text more : List UInt8}
    {first : UInt8} {result : Option Value × List UInt8} (here : afterSpace text = first :: more)
    (scalar : attemptScalar? first more = some result) : attemptWith inner text = result := by
  rw [attemptWith, here]
  simp only [scalar]

section Readers

variable {n : Int} (least : -0x8000000000000000 ≤ n) (most : n < 0x8000000000000000)

include least most

theorem numeralOf_integer? : (numeralOf n).integer? = some n := by
  rw [Numeral.integer?, numeralOf_wholeNumber? least most, Option.filter_some]
  exact if_pos (decide_eq_true most)

theorem integer_print {rest : List UInt8} (ends : Ends rest) :
    integer (spell (signedDecimal n) ++ rest) = .ok (n, rest) := by
  have fits : n.natAbs ≤ 0xFFFFFFFFFFFFFFFF := by omega
  have read := finiteNumeral_print fits ends
  obtain ⟨first, more, same, starts⟩ := startsNumeral_print n
  rw [same, List.cons_append] at read ⊢
  rw [integer, afterSpace_cons (not_isSpace_of_startsNumeral starts)]
  simp only [if_pos starts, read, numeralOf_integer? least most]

theorem attemptValue_integer (depth : Nat) {rest : List UInt8} (ends : Ends rest) :
    attemptValue depth (spell (signedDecimal n) ++ rest) = (some (.integer n), rest) := by
  have read := numeral_print n ends
  have value : (numeralOf n).value? = some (.integer n) := by
    rw [Numeral.value?, numeralOf_wholeNumber? least most]
  obtain ⟨first, more, same, starts⟩ := startsNumeral_print n
  rw [same, List.cons_append] at read ⊢
  have here := afterSpace_cons (not_isSpace_of_startsNumeral starts) (more ++ rest)
  have scalar : attemptScalar? first (more ++ rest) = some (some (.integer n), rest) := by
    rw [attemptScalar?_numeral starts, attemptNumber, read]
    simp only [value]
  cases depth with
  | zero => exact attemptWith_of_scalar here scalar
  | succ depth => exact attemptWith_of_scalar here scalar

end Readers

/-! Passing over an integer. -/

theorem passValue_of_opening {first : UInt8} {more rest : List UInt8}
    (notSpace : isSpace first = false) (opening : passOpening (first :: more) = .ok (none, rest)) :
    passValue (first :: more) = .ok ((), rest) := by
  have passed : passFrom (2 * (first :: more).length + 2) .value [] (first :: more) = .ok rest := by
    rw [passFrom, afterSpace_cons notSpace, opening]
    rfl
  rw [passValue, passed]

theorem passValue_integer (n : Int) {rest : List UInt8} (ends : Ends rest) :
    passValue (spell (signedDecimal n) ++ rest) = .ok ((), rest) := by
  have read := numeral_print n ends
  obtain ⟨first, more, same, starts⟩ := startsNumeral_print n
  have notSpace := not_isSpace_of_startsNumeral starts
  have notNull : first ≠ 0x6E := ne_of_startsNumeral starts rfl
  have notTrue : first ≠ 0x74 := ne_of_startsNumeral starts rfl
  have notFalse : first ≠ 0x66 := ne_of_startsNumeral starts rfl
  rw [same, List.cons_append] at read ⊢
  apply passValue_of_opening notSpace
  have numeralStarts : (decide (first = 0x2D) || isDigit first) = true := starts
  rw [passOpening, if_neg notNull, if_neg notTrue, if_neg notFalse, if_pos numeralStarts, read]

end Accounts.Json
