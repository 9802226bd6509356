import Accounts.Proofs.Text.Scanner
import Accounts.Proofs.Time.Calendar
import Accounts.Proofs.Time.Instant
import Accounts.Time

/-! The text of an instant is read back as the instant, whatever the sign and the digits of its year
and of its fraction. -/

namespace Accounts.Time

open Text

/-! Numbers. -/

theorem scanNumber_padded {most width n : Nat} {rest : List Char}
    (ends : DigitsEnd most (padded width n) rest) :
    scanNumber most (padded width n ++ rest) = some (n, rest) := by
  have digit : ∀ c ∈ padded width n, c.isDigit = true := fun _ => isDigit_of_mem_padded
  have run := digitRun_append (padded_ne_nil width n) digit ends
  have steady : trimStart (padded width n ++ rest) = padded width n ++ rest :=
    trimStart_digits (padded_ne_nil width n) digit
  have start := blanks_of_trimStart steady
  rw [scanNumber, bind_of_some start, bind_of_some run, ofDigitChars_padded]
  rfl

theorem digitsEnd_two {n : Nat} (small : n < 100) (rest : List Char) :
    DigitsEnd 2 (padded 2 n) rest := by
  left
  exact length_padded (by decide) small

theorem scanField_padded {least greatest n : Nat} (lower : least ≤ n) (upper : n ≤ greatest)
    (small : n < 100) (rest : List Char) :
    scanField least greatest (padded 2 n ++ rest) = some (n, rest) := by
  rw [scanField, bind_of_some (scanNumber_padded (digitsEnd_two small rest)),
    if_pos ⟨lower, upper⟩]
  rfl

theorem scanMark_cons {c : Char} (notBlank : isBlank c = false) (rest : List Char) :
    scanMark c (c :: rest) = some ((), rest) := by
  rw [scanMark, bind_of_some (blanks_of_trimStart (trimStart_cons notBlank rest)), exactly_cons]

/-! Years. -/

def NoDigit (rest : List Char) : Prop := ∀ c ∈ rest.head?, c.isDigit = false

theorem noDigit_cons {c : Char} (other : c.isDigit = false) (rest : List Char) :
    NoDigit (c :: rest) := by
  simp [NoDigit, other]

theorem run_padded {width n : Nat} {rest : List Char} (stops : NoDigit rest) :
    digitRun (padded width n ++ rest).length (padded width n ++ rest) =
      some (padded width n, rest) := by
  have digit : ∀ c ∈ padded width n, c.isDigit = true := fun _ => isDigit_of_mem_padded
  apply digitRun_append (padded_ne_nil width n) digit
  right
  exact ⟨by simp, stops⟩

theorem scanYear_minus (text : List Char) : scanYear ('-' :: text) =
    (do return -(Nat.ofDigitChars 10 (← digitRun text.length) 0 : Int) : Scanner Int) text := rfl

theorem scanYear_plus (text : List Char) : scanYear ('+' :: text) =
    (do return Nat.ofDigitChars 10 (← digitRun text.length) 0 : Scanner Int) text := rfl

theorem scanYear_plain {c : Char} (digit : c.isDigit = true) (text : List Char) :
    scanYear (c :: text) =
      (do return Nat.ofDigitChars 10 (← digitRun 4) 0 : Scanner Int) (c :: text) := by
  have start := blanks_of_trimStart (trimStart_cons (not_isBlank_of_isDigit digit) text)
  have minus : c ≠ '-' := by
    rintro rfl
    contradiction
  have plus : c ≠ '+' := by
    rintro rfl
    contradiction
  rw [scanYear, bind_of_some start, bind_of_some (get_eq _)]
  simp [minus, plus]

theorem scanYear_unsigned {n : Nat} (small : n < 10000) (rest : List Char) :
    scanYear (padded 4 n ++ rest) = some ((n : Int), rest) := by
  have digit : ∀ c ∈ padded 4 n, c.isDigit = true := fun _ => isDigit_of_mem_padded
  have ends : DigitsEnd 4 (padded 4 n) rest := .inl (length_padded (by decide) small)
  have run := digitRun_append (padded_ne_nil 4 n) digit ends
  have value := ofDigitChars_padded 4 n
  obtain ⟨c, digits, spelled⟩ := List.exists_cons_of_ne_nil (padded_ne_nil 4 n)
  rw [spelled] at digit value run
  rw [List.cons_append] at run
  rw [spelled, List.cons_append, scanYear_plain (digit c (by simp)), bind_of_some run, value]
  rfl

theorem scanYear_printYear (year : Int) {rest : List Char} (stops : NoDigit rest) :
    scanYear (printYear year ++ rest) = some (year, rest) := by
  unfold printYear
  split
  next plain =>
    rw [scanYear_unsigned (by omega), Int.natAbs_of_nonneg plain.1]
  next signed =>
    by_cases negative : year < 0
    · have value : -(year.natAbs : Int) = year := by omega
      rw [if_pos negative, List.cons_append, scanYear_minus, bind_of_some (run_padded stops),
        ofDigitChars_padded, value]
      rfl
    · have value : (year.natAbs : Int) = year := by omega
      rw [if_neg negative, List.cons_append, scanYear_plus, bind_of_some (run_padded stops),
        ofDigitChars_padded, value]
      rfl

/-! Fractions. -/

theorem scanNano_point (text : List Char) : scanNano ('.' :: text) =
    (do
      let digits ← digitRun text.length
      let counted := digits.take 9
      return Nat.ofDigitChars 10 (counted ++ List.replicate (9 - counted.length) '0') 0 :
      Scanner Nat) text := rfl

theorem scanNano_digits {places n : Nat} (fits : places ≤ 9) (positive : 0 < places)
    (small : n < Nat.pow 10 places) {rest : List Char} (stops : NoDigit rest) :
    scanNano ('.' :: (padded places n ++ rest)) = some (Nat.pow 10 (9 - places) * n, rest) := by
  have length := length_padded positive small
  have whole : (padded places n).take 9 = padded places n :=
    List.take_of_length_le (by omega)
  rw [scanNano_point, bind_of_some (run_padded stops)]
  simp only [whole, length, Nat.ofDigitChars_append, ofDigitChars_padded,
    Nat.ofDigitChars_replicate_zero]
  rfl

theorem scanNano_none {c : Char} (other : c ≠ '.') (rest : List Char) :
    scanNano (c :: rest) = some (0, c :: rest) := by
  rw [scanNano, bind_of_some (get_eq _)]
  simp [other]
  rfl

theorem scanNano_printFraction {nano : Nat} (small : nano < 1000000000) {c : Char}
    (other : c ≠ '.') (notDigit : c.isDigit = false) (rest : List Char) :
    scanNano (printFraction nano ++ c :: rest) = some (nano, c :: rest) := by
  have stops := noDigit_cons notDigit rest
  unfold printFraction
  split
  next zero => rw [List.nil_append, scanNano_none other, zero]
  next =>
    split
    next milli =>
      have bound : nano / 1000000 < Nat.pow 10 3 := by
        change _ < 1000
        omega
      rw [List.cons_append, scanNano_digits (by decide) (by decide) bound stops]
      change some (1000000 * (nano / 1000000), _) = _
      rw [Nat.mul_div_cancel' (Nat.dvd_of_mod_eq_zero milli)]
    next =>
      split
      next micro =>
        have bound : nano / 1000 < Nat.pow 10 6 := by
          change _ < 1000000
          omega
        rw [List.cons_append, scanNano_digits (by decide) (by decide) bound stops]
        change some (1000 * (nano / 1000), _) = _
        rw [Nat.mul_div_cancel' (Nat.dvd_of_mod_eq_zero micro)]
      next =>
        rw [List.cons_append, scanNano_digits (by decide) (by decide) small stops]
        change some (1 * nano, _) = _
        rw [Nat.one_mul]

/-! Instants. -/

def written (date : Date) (hour minute second nano : Nat) : List Char :=
  printYear date.year ++ '-' :: (padded 2 date.month ++ '-' :: (padded 2 date.day ++
    'T' :: (padded 2 hour ++ ':' :: (padded 2 minute ++ ':' :: (padded 2 second ++
      (printFraction nano ++ ['Z']))))))

theorem print_eq (instant : Instant) :
    instant.print = written (Date.ofDays (instant.second / 86400))
      ((instant.second % 86400).toNat / 3600) ((instant.second % 86400).toNat / 60 % 60)
      ((instant.second % 86400).toNat % 60 + instant.nano / 1000000000)
      (instant.nano % 1000000000) := by
  simp [Instant.print, written]

/-- The parts of an instant are read as the instant. The sixtieth second is the leap second of the
fifty-ninth. -/
theorem scanInstant_written {date : Date} {hour minute second nano : Nat} {place : Nat × Nat}
    {instant : Instant} (valid : date.valid = true) (hours : hour ≤ 23) (minutes : minute ≤ 59)
    (seconds : second ≤ 60) (small : nano < 1000000000)
    (placed : (if second = 60 then (59, nano + 1000000000) else (second, nano)) = place)
    (reading : date.toDays * 86400 + (hour * 3600 + minute * 60 + place.1 : Nat) = instant.second)
    (nanos : place.2 = instant.nano) :
    scanInstant (written date hour minute second nano) = some (instant, []) := by
  obtain ⟨month_ge, day_ge, -⟩ := date.valid_iff.mp valid
  have month_le := Date.month_le_of_valid valid
  have day_le := Date.day_le_of_valid valid
  obtain ⟨year, month, day⟩ := date
  have hyphen : isBlank '-' = false := by decide
  have colon : isBlank ':' = false := by decide
  have separator : ∀ rest, scanSeparator ('T' :: rest) = some ((), rest) := fun _ => rfl
  have offset : scanOffset ['Z'] = some (0, []) := rfl
  rw [scanInstant, written,
    bind_of_some (scanYear_printYear year (noDigit_cons (by decide) _)),
    bind_of_some (scanMark_cons hyphen _),
    bind_of_some (scanField_padded month_ge month_le (by omega) _),
    bind_of_some (scanMark_cons hyphen _),
    bind_of_some (scanField_padded day_ge day_le (by omega) _),
    bind_of_some (separator _),
    bind_of_some (scanField_padded (Nat.zero_le hour) hours (by omega) _),
    bind_of_some (scanMark_cons colon _),
    bind_of_some (scanField_padded (Nat.zero_le minute) minutes (by omega) _),
    bind_of_some (scanMark_cons colon _),
    bind_of_some (scanField_padded (Nat.zero_le second) seconds (by omega) _),
    bind_of_some (scanNano_printFraction small (by decide) (by decide) _),
    bind_of_some offset]
  have first := instant.first_le
  have last := instant.le_last
  have inRange : ¬ (instant.second < firstSecond ∨ lastSecond < instant.second) := by omega
  have found : Instant.of? instant.second instant.nano = some instant :=
    Instant.of?_eq_some.mpr ⟨rfl, rfl⟩
  have noOffset : ¬ ((!true || decide ((0 : Int).natAbs ≥ 1440)) = true) := by decide
  simp only [valid, if_neg noOffset, placed, reading, nanos, if_neg inRange, Int.zero_mul,
    Int.sub_zero, found]
  rfl

theorem place_eq (instant : Instant) :
    (if (instant.second % 86400).toNat % 60 + instant.nano / 1000000000 = 60 then
        (59, instant.nano % 1000000000 + 1000000000)
      else ((instant.second % 86400).toNat % 60 + instant.nano / 1000000000,
        instant.nano % 1000000000)) = ((instant.second % 86400).toNat % 60, instant.nano) := by
  have nano := instant.nano_lt
  by_cases plain : instant.nano < 1000000000
  · rw [if_neg (by omega)]
    simp only [Prod.mk.injEq]
    omega
  · rw [if_pos (by omega)]
    simp only [Prod.mk.injEq]
    omega

theorem scanInstant_print (instant : Instant) : scanInstant instant.print = some (instant, []) := by
  have nano := instant.nano_lt
  rw [print_eq]
  refine scanInstant_written (Date.ofDays_valid _) ?_ ?_ ?_ ?_ (place_eq instant) ?_ rfl
  · omega
  · omega
  · omega
  · omega
  · rw [Date.toDays_ofDays]
    dsimp only
    omega

theorem Instant.parse?_render (instant : Instant) : parse? instant.render = some instant := by
  rw [parse?, render, String.toList_ofList, scanInstant_print]
  rfl

end Accounts.Time
