import Accounts.Time

/-! The arithmetic of instants: which instant is some seconds later, and when there is none. -/

namespace Accounts.Time.Instant

variable {now later : Instant}

theorem of?_eq_some {second : Int} {nano : Nat} :
    of? second nano = some later ↔ later.second = second ∧ later.nano = nano := by
  constructor
  · intro found
    unfold of? at found
    split at found
    · split at found
      · cases found
        exact ⟨rfl, rfl⟩
      · contradiction
    · contradiction
  · rintro ⟨rfl, rfl⟩
    unfold of?
    rw [dif_pos ⟨later.first_le, later.le_last⟩, dif_pos later.nano_lt]

theorem of?_eq_none {second : Int} {nano : Nat} (small : nano < 1000000000) :
    of? second nano = none ↔ second < firstSecond ∨ lastSecond < second := by
  unfold of?
  by_cases range : firstSecond ≤ second ∧ second ≤ lastSecond
  · rw [dif_pos range, dif_pos (.inl small)]
    exact iff_of_false nofun (by omega)
  · rw [dif_neg range]
    exact iff_of_true rfl (by omega)

/-- The nanoseconds since the second of an instant began. A leap second counts as the second that it
lengthens. -/
def fraction (instant : Instant) : Nat := instant.nano % 1000000000

theorem fraction_lt (instant : Instant) : instant.fraction < 1000000000 :=
  Nat.mod_lt _ (by decide)

theorem later?_eq_of? (instant : Instant) (seconds : Int) :
    instant.later? seconds = of? (instant.second + seconds) instant.fraction := by
  have bound : instant.nano < 2000000000 := by
    rcases instant.nano_lt with small | ⟨small, -⟩
    · omega
    · exact small
  unfold later? fraction
  split
  next small => rw [Nat.mod_eq_of_lt small]
  next large => rw [Nat.mod_eq_sub_mod (by omega), Nat.mod_eq_of_lt (by omega)]

theorem later?_eq_some {seconds : Int} :
    now.later? seconds = some later ↔
      later.second = now.second + seconds ∧ later.nano = now.fraction := by
  rw [later?_eq_of?, of?_eq_some]

theorem second_of_later? {seconds : Int} (found : now.later? seconds = some later) :
    later.second = now.second + seconds :=
  (later?_eq_some.mp found).1

def elapsed (instant : Instant) : Int := instant.second * 1000000000 + instant.fraction

def last : Instant := ⟨lastSecond, 999999999, by decide, by decide, by decide⟩

theorem later?_eq_none {seconds : Int} (forward : 0 ≤ seconds) :
    now.later? seconds = none ↔ last.elapsed < now.elapsed + seconds * 1000000000 := by
  have fraction := now.fraction_lt
  have first := now.first_le
  have whole : last.elapsed = lastSecond * 1000000000 + 999999999 := rfl
  rw [later?_eq_of?, of?_eq_none fraction, whole, elapsed]
  omega

end Accounts.Time.Instant
