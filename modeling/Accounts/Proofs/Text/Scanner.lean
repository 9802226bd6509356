import Accounts.Proofs.Text.Numerals
import Accounts.Text.Scanner
import Mathlib.Data.List.Basic

/-! The pieces of a text between separators, and what scanners take off its front. -/

namespace Accounts.Text

theorem not_mem_of_mem_splitOn {separator : Char} {text piece : List Char}
    (member : piece ∈ text.splitOn separator) : separator ∉ piece := by
  induction text generalizing piece with
  | nil =>
      rw [List.splitOn_nil, List.mem_singleton] at member
      simp [member]
  | cons c rest ih =>
      rw [List.splitOn_cons_eq_if_modifyHead] at member
      split at member
      next separates =>
        rcases List.mem_cons.mp member with rfl | later
        · exact List.not_mem_nil
        · exact ih later
      next other =>
        obtain ⟨first, pieces, cut⟩ :=
          List.exists_cons_of_ne_nil (List.splitOn_ne_nil separator rest)
        rw [cut, List.modifyHead_cons] at member
        rw [cut] at ih
        rcases List.mem_cons.mp member with rfl | later
        · have free := ih List.mem_cons_self
          have different : c ≠ separator := by simpa using other
          simp [free, different.symm]
        · exact ih (List.mem_cons_of_mem first later)

structure CutAt (separator : Char) (text : List Char) (pieces : List (List Char)) : Prop where
  nonempty : pieces ≠ []
  free : ∀ piece ∈ pieces, separator ∉ piece
  whole : [separator].intercalate pieces = text

theorem cutAt_iff {separator : Char} {text : List Char} {pieces : List (List Char)} :
    CutAt separator text pieces ↔ text.splitOn separator = pieces := by
  constructor
  · intro cut
    rw [← cut.whole]
    exact List.splitOn_intercalate separator cut.free cut.nonempty
  · intro same
    rw [← same]
    exact ⟨List.splitOn_ne_nil separator text, fun _ => not_mem_of_mem_splitOn,
      List.intercalate_splitOn separator⟩

/-! Scanners. -/

theorem bind_of_some {α β : Type} {scanner : Scanner α} {next : α → Scanner β}
    {text rest : List Char} {value : α} (taken : scanner text = some (value, rest)) :
    (scanner >>= next) text = next value rest := by
  change Option.bind (scanner text) (fun taken => next taken.1 taken.2) = next value rest
  rw [taken]
  rfl

theorem get_eq (text : List Char) : (get : Scanner (List Char)) text = some (text, text) := rfl

theorem trimStart_cons {c : Char} (notBlank : isBlank c = false) (rest : List Char) :
    trimStart (c :: rest) = c :: rest := by
  simp [trimStart, notBlank]

theorem blanks_of_trimStart {text : List Char} (same : trimStart text = text) :
    blanks text = some ((), text) := by
  change some ((), trimStart text) = some ((), text)
  rw [same]

theorem exactly_cons (c : Char) (rest : List Char) : exactly c (c :: rest) = some ((), rest) := by
  simp [exactly]

theorem not_isBlank_of_isDigit {c : Char} (digit : c.isDigit = true) : isBlank c = false := by
  have points : 48 ≤ c.toNat ∧ c.toNat ≤ 57 := by
    simpa [Char.isDigit, UInt32.le_iff_toNat_le] using digit
  simp only [isBlank, Bool.or_eq_false_iff, Bool.and_eq_false_iff, beq_eq_false_iff_ne,
    decide_eq_false_iff_not]
  omega

/-! Runs of digits. -/

variable {most : Nat} {digits rest : List Char}

theorem trimStart_digits (nonempty : digits ≠ []) (digit : ∀ c ∈ digits, c.isDigit = true) :
    trimStart (digits ++ rest) = digits ++ rest := by
  cases digits with
  | nil => contradiction
  | cons c digits =>
      have first : c.isDigit = true := digit c (by simp)
      exact trimStart_cons (not_isBlank_of_isDigit first) (digits ++ rest)

/-- Whether the text behind a run of digits ends it: the run has as many as are taken, or no other
digit follows. -/
def DigitsEnd (most : Nat) (digits rest : List Char) : Prop :=
  digits.length = most ∨ digits.length ≤ most ∧ ∀ c ∈ rest.head?, c.isDigit = false

theorem digitRun_append (nonempty : digits ≠ []) (digit : ∀ c ∈ digits, c.isDigit = true)
    (ends : DigitsEnd most digits rest) : digitRun most (digits ++ rest) = some (digits, rest) := by
  have fits : digits.length ≤ most := by
    rcases ends with full | ⟨fits, -⟩
    · omega
    · exact fits
  have stops : (rest.take (most - digits.length)).takeWhile Char.isDigit = [] := by
    rcases ends with full | ⟨-, follows⟩
    · simp [full]
    · cases rest with
      | nil => simp
      | cons c rest =>
          have other : c.isDigit = false := follows c rfl
          cases most - digits.length <;> simp [other]
  have run : ((digits ++ rest).take most).takeWhile Char.isDigit = digits := by
    rw [List.take_append, List.take_of_length_le fits, List.takeWhile_append_of_pos digit, stops,
      List.append_nil]
  unfold digitRun
  rw [run]
  cases digits with
  | nil => contradiction
  | cons c digits => simp

end Accounts.Text
