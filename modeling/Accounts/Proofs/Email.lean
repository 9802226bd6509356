import Accounts.Email
import Accounts.Proofs.Text.Lowercase
import Mathlib.Data.List.TakeDrop
import Mathlib.Data.List.TakeWhile

/-! Normalizing leaves an accepted address as it is. -/

namespace Accounts

theorem Text.trim_eq_self {text : String} (noBlank : ∀ c ∈ text.toList, Text.isBlank c = false) :
    Text.trim text = text := by
  have start : Text.trimStart text.toList = text.toList := by
    rw [Text.trimStart, List.dropWhile_eq_self_iff]
    intro inside blank
    rw [noBlank _ (List.getElem_mem inside)] at blank
    contradiction
  have finish : Text.trimEnd text.toList = text.toList := by
    have reversed : text.toList.reverse.dropWhile Text.isBlank = text.toList.reverse := by
      rw [List.dropWhile_eq_self_iff]
      intro inside blank
      rw [noBlank _ (List.mem_reverse.mp (List.getElem_mem inside))] at blank
      contradiction
    rw [Text.trimEnd, reversed, List.reverse_reverse]
  rw [Text.trim, start, finish, String.ofList_toList]

namespace Email

theorem of_eq_ok {text : String} {email : Email} (accepted : Email.of text = .ok email) :
    email.text = normalize text ∧ isAddress email.text.toList = true := by
  unfold Email.of at accepted
  generalize normalize text = normal at accepted ⊢
  dsimp only at accepted
  split at accepted
  · contradiction
  · split at accepted
    · contradiction
    · split at accepted
      next address =>
        rw [← Except.ok.inj accepted]
        exact ⟨rfl, address⟩
      · contradiction

theorem not_isBlank_of_isDomainChar {c : Char} (inDomain : isDomainChar c = true) :
    Text.isBlank c = false := by
  have ascii : ∀ point < 128, isDomainChar (Char.ofNat point) = true →
      Text.isBlank (Char.ofNat point) = false := by
    decide +kernel
  have bound : c.toNat < 128 := by
    simp only [isDomainChar, Bool.or_eq_true, Bool.and_eq_true, decide_eq_true_eq, beq_iff_eq,
      Char.le_def, UInt32.le_iff_toNat_le] at inDomain
    unfold Char.toNat
    rcases inDomain with (((lower | upper) | digit) | rfl) | rfl
    · exact Nat.lt_of_le_of_lt lower.2 (by decide)
    · exact Nat.lt_of_le_of_lt upper.2 (by decide)
    · exact Nat.lt_of_le_of_lt digit.2 (by decide)
    · decide
    · decide
  have same := ascii c.toNat bound
  rw [Char.ofNat_toNat] at same
  exact same inDomain

theorem span_sign {before : List Char} (free : '@' ∉ before) (behind : List Char) :
    (before ++ '@' :: behind).span (· ≠ '@') = (before, '@' :: behind) := by
  have others : ∀ c ∈ before, decide (c ≠ '@') = true := by
    intro c member
    apply decide_eq_true
    rintro rfl
    exact free member
  rw [List.span_eq_takeWhile_dropWhile, List.takeWhile_append_of_pos others,
    List.dropWhile_append_of_pos others]
  simp

theorem isAddress_iff {text : List Char} :
    isAddress text = true ↔ ∃ before behind, text = before ++ '@' :: behind ∧ '@' ∉ before ∧
      isLocal before = true ∧ isDomain behind = true := by
  constructor
  · intro address
    unfold isAddress at address
    split at address
    next before sign behind cut =>
      rw [List.span_eq_takeWhile_dropWhile] at cut
      obtain ⟨rfl, rest⟩ := Prod.mk.inj cut
      obtain rfl : sign = '@' := by
        have fails := List.head?_dropWhile_not (fun c => decide (c ≠ '@')) text
        rw [rest] at fails
        simpa using fails
      have whole := List.takeWhile_append_dropWhile (p := fun c => decide (c ≠ '@')) (l := text)
      rw [rest] at whole
      have free : '@' ∉ text.takeWhile fun c => decide (c ≠ '@') := by
        intro member
        simpa using List.mem_takeWhile_imp member
      exact ⟨_, behind, whole.symm, free, Bool.and_eq_true_iff.mp address⟩
    · contradiction
  · rintro ⟨before, behind, rfl, free, inLocal, inDomain⟩
    rw [isAddress, span_sign free]
    dsimp only
    rw [inLocal, inDomain]
    rfl

theorem not_isBlank_of_isAddress {text : List Char} (address : isAddress text = true) :
    ∀ c ∈ text, Text.isBlank c = false := by
  obtain ⟨before, behind, rfl, -, inLocal, inDomain⟩ := isAddress_iff.mp address
  intro c member
  rw [List.mem_append, List.mem_cons] at member
  rcases member with member | rfl | member
  · simp only [isLocal, Bool.and_eq_true, Bool.not_eq_true', List.any_eq_false] at inLocal
    simpa using inLocal.2 c member
  · decide
  · simp only [isDomain, Bool.and_eq_true, List.all_eq_true] at inDomain
    exact not_isBlank_of_isDomainChar (inDomain.1.2 c member)

theorem normalize_of {text : String} {email : Email} (accepted : Email.of text = .ok email) :
    normalize email.text = email.text := by
  obtain ⟨normalized, address⟩ := of_eq_ok accepted
  rw [normalize, Text.trim_eq_self (not_isBlank_of_isAddress address), normalized, normalize,
    Text.lowercase_lowercase]

theorem of_eq_of_normalize {text other : String} (same : normalize text = normalize other) :
    Email.of text = Email.of other := by
  rw [Email.of, Email.of, same]

theorem of_text {text : String} {email : Email} (accepted : Email.of text = .ok email) :
    Email.of email.text = .ok email := by
  have same : normalize email.text = normalize text :=
    (normalize_of accepted).trans (of_eq_ok accepted).1
  rw [of_eq_of_normalize same, accepted]

end Email

end Accounts
