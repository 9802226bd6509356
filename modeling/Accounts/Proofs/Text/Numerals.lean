import Accounts.Proofs.Except
import Accounts.Text.Numerals

/-! Numerals. Those with zeros in front are written in digits alone and read back as their numbers,
and integers are read exactly where digits write them: behind a sign or not, with zeros in front or
not, as long as they fit. -/

namespace Accounts.Text

theorem isDigit_of_mem_decimal {n : Nat} {c : Char} (member : c ∈ decimal n) : c.isDigit = true :=
  Nat.isDigit_of_mem_toDigits (by decide) (by decide) member

theorem isDigit_of_mem_padded {width n : Nat} {c : Char} (member : c ∈ padded width n) :
    c.isDigit = true := by
  rw [padded, List.mem_append] at member
  rcases member with zero | digit
  · rw [List.eq_of_mem_replicate zero]
    rfl
  · exact isDigit_of_mem_decimal digit

theorem padded_ne_nil (width n : Nat) : padded width n ≠ [] := by
  have nonempty : decimal n ≠ [] := Nat.toDigits_ne_nil
  simp [padded, nonempty]

theorem ofDigitChars_padded (width n : Nat) : Nat.ofDigitChars 10 (padded width n) 0 = n := by
  rw [padded, Nat.ofDigitChars_append, Nat.ofDigitChars_replicate_zero, Nat.mul_zero, decimal,
    Nat.ofDigitChars_toDigits (by decide) (by decide)]

theorem length_padded {width n : Nat} (positive : 0 < width) (small : n < Nat.pow 10 width) :
    (padded width n).length = width := by
  have fits : (decimal n).length ≤ width :=
    (Nat.length_toDigits_le_iff (by decide) positive).mpr small
  rw [padded, List.length_append, List.length_replicate]
  omega

/-! Integers. -/

structure WritesNumber (digits : List Char) (n : Nat) : Prop where
  nonempty : digits ≠ []
  digit : ∀ c ∈ digits, c.isDigit = true
  value : Nat.ofDigitChars 10 digits 0 = n

theorem le_ofDigitChars (sofar : Nat) (digits : List Char) :
    sofar ≤ Nat.ofDigitChars 10 digits sofar := by
  induction digits generalizing sofar with
  | nil => exact Nat.le_refl sofar
  | cons c digits ih =>
      have later := ih (10 * sofar + (c.toNat - '0'.toNat))
      rw [Nat.ofDigitChars_cons]
      omega

/-- A number fits if no beginning of it is beyond the greatest. -/
theorem readDigits_eq_ok {greatest sofar n : Nat} {beyond : IntegerFault} {digits : List Char}
    (fits : sofar ≤ greatest) :
    readDigits greatest beyond sofar digits = .ok n ↔
      (∀ c ∈ digits, c.isDigit = true) ∧ Nat.ofDigitChars 10 digits sofar = n ∧ n ≤ greatest := by
  induction digits generalizing sofar with
  | nil =>
      simp only [readDigits, Except.ok.injEq, Nat.ofDigitChars_nil]
      constructor
      · rintro rfl
        exact ⟨nofun, rfl, fits⟩
      · exact fun written => written.2.1
  | cons c digits ih =>
      have same : 10 * sofar + (c.toNat - '0'.toNat) = sofar * 10 + (c.toNat - 0x30) := by
        rw [Nat.mul_comm]
        rfl
      rw [readDigits, Nat.ofDigitChars_cons, same]
      by_cases digit : c.isDigit = true
      · by_cases small : sofar * 10 + (c.toNat - 0x30) ≤ greatest
        · simp [digit, small, ih small]
        · have later := le_ofDigitChars (sofar * 10 + (c.toNat - 0x30)) digits
          simp [digit, small]
          omega
      · simp [digit]

theorem readSomeDigits_eq_ok {greatest n : Nat} {beyond : IntegerFault} {digits : List Char} :
    readSomeDigits greatest beyond digits = .ok n ↔ WritesNumber digits n ∧ n ≤ greatest := by
  unfold readSomeDigits
  split
  next empty =>
    constructor
    · nofun
    · exact fun ⟨writes, _⟩ => absurd empty writes.nonempty
  next nonempty =>
    rw [readDigits_eq_ok (Nat.zero_le greatest)]
    constructor
    · rintro ⟨digit, value, fits⟩
      exact ⟨⟨nonempty, digit, value⟩, fits⟩
    · rintro ⟨writes, fits⟩
      exact ⟨writes.digit, writes.value, fits⟩

def WritesUnsigned (text : List Char) (n : Nat) : Prop :=
  WritesNumber text n ∨ ∃ digits, text = '+' :: digits ∧ WritesNumber digits n

def WritesSigned (text : List Char) (value : Int) : Prop :=
  (∃ n : Nat, WritesUnsigned text n ∧ value = n) ∨
    ∃ digits, ∃ n : Nat, text = '-' :: digits ∧ WritesNumber digits n ∧ value = -n

theorem WritesNumber.head {c : Char} {digits : List Char} {n : Nat}
    (writes : WritesNumber (c :: digits) n) : c.isDigit = true :=
  writes.digit c (by simp)

theorem readUnsigned_eq_ok {greatest n : Nat} {text : String} :
    readUnsigned greatest text = .ok n ↔ WritesUnsigned text.toList n ∧ n ≤ greatest := by
  unfold readUnsigned WritesUnsigned
  split
  next empty =>
    constructor
    · nofun
    · rintro ⟨writes | ⟨digits, signed, -⟩, -⟩
      · exact absurd empty writes.nonempty
      · rw [empty] at signed
        contradiction
  next digits signed =>
    rw [readSomeDigits_eq_ok, signed]
    constructor
    · rintro ⟨writes, fits⟩
      exact ⟨.inr ⟨digits, rfl, writes⟩, fits⟩
    · rintro ⟨writes | ⟨others, same, writes⟩, fits⟩
      · exact absurd writes.head (by decide)
      · rw [(List.cons.inj same).2]
        exact ⟨writes, fits⟩
  next unsigned =>
    rw [readSomeDigits_eq_ok]
    constructor
    · rintro ⟨writes, fits⟩
      exact ⟨.inl writes, fits⟩
    · rintro ⟨writes | ⟨digits, signed, -⟩, fits⟩
      · exact ⟨writes, fits⟩
      · exact absurd signed (unsigned digits)

theorem not_writesUnsigned_minus (digits : List Char) (n : Nat) :
    ¬ WritesUnsigned ('-' :: digits) n := by
  rintro (writes | ⟨others, same, -⟩)
  · exact absurd writes.head (by decide)
  · exact absurd (List.cons.inj same).1 (by decide)

theorem readSigned_minus {text : String} {digits : List Char} (signed : text.toList = '-' :: digits) :
    readSigned text =
      (readSomeDigits 0x8000000000000000 .tooSmall digits).map fun n : Nat => -(n : Int) := by
  unfold readSigned
  rw [signed]
  change Except.map (fun n => -n)
    (readSomeDigits 0x8000000000000000 .tooSmall digits >>= fun n => pure (n : Int)) = _
  cases readSomeDigits 0x8000000000000000 .tooSmall digits <;> rfl

theorem readSigned_other {text : String} (other : ∀ digits, text.toList ≠ '-' :: digits) :
    readSigned text = (readUnsigned 0x7FFFFFFFFFFFFFFF text).map fun n : Nat => (n : Int) := by
  unfold readSigned readUnsigned
  generalize text.toList = chars at other
  cases chars with
  | nil => rfl
  | cons c digits =>
      by_cases plus : c = '+'
      · rw [plus]
        rfl
      · simp [plus]
        rfl

theorem readSigned_eq_ok {value : Int} {text : String} :
    readSigned text = .ok value ↔ WritesSigned text.toList value ∧
      -0x8000000000000000 ≤ value ∧ value ≤ 0x7FFFFFFFFFFFFFFF := by
  unfold WritesSigned
  by_cases minus : ∃ digits, text.toList = '-' :: digits
  · obtain ⟨digits, signed⟩ := minus
    rw [readSigned_minus signed, except_map_eq_ok, signed]
    simp only [readSomeDigits_eq_ok]
    constructor
    · rintro ⟨n, ⟨writes, fits⟩, rfl⟩
      exact ⟨.inr ⟨digits, n, rfl, writes, rfl⟩, by omega, by omega⟩
    · rintro ⟨⟨n, unsigned, -⟩ | ⟨others, n, same, writes, rfl⟩, least, -⟩
      · exact absurd unsigned (not_writesUnsigned_minus digits n)
      · rw [← (List.cons.inj same).2] at writes
        exact ⟨n, ⟨writes, by omega⟩, rfl⟩
  · rw [not_exists] at minus
    rw [readSigned_other minus, except_map_eq_ok]
    simp only [readUnsigned_eq_ok]
    constructor
    · rintro ⟨n, ⟨writes, fits⟩, rfl⟩
      exact ⟨.inl ⟨n, writes, rfl⟩, by omega, by omega⟩
    · rintro ⟨⟨n, unsigned, rfl⟩ | ⟨digits, n, signed, -⟩, -, most⟩
      · exact ⟨n, ⟨unsigned, by omega⟩, rfl⟩
      · exact absurd signed (minus digits)

end Accounts.Text
