import Accounts.Time

/-! Days and their dates. Every day has a date that exists and leads back to the day. -/

namespace Accounts.Time

/-! Years. -/

/-- The start of a year is close to where years of mean length put it. -/
theorem daysBeforeYear_near (year : Int) :
    146097 * year - 396 ≤ 400 * daysBeforeYear year ∧
      400 * daysBeforeYear year ≤ 146097 * year + 699 := by
  unfold daysBeforeYear
  omega

theorem yearOfDay_holds (day : Int) :
    daysBeforeYear (yearOfDay day) ≤ day ∧ day < daysBeforeYear (yearOfDay day + 1) := by
  unfold yearOfDay
  generalize mean : day * 400 / 146097 = near
  have earlier := (daysBeforeYear_near (near - 1)).2
  have later := (daysBeforeYear_near (near + 2)).1
  have next : near + 1 + 1 = near + 2 := by omega
  have same : near - 1 + 1 = near := by omega
  dsimp only
  split
  · rw [next]
    omega
  · split
    · rw [same]
      omega
    · omega

def total (lengths : List Nat) : Nat := lengths.foldl Nat.add 0

theorem foldl_add (first : Nat) (lengths : List Nat) :
    lengths.foldl Nat.add first = first + total lengths := by
  induction lengths generalizing first with
  | nil => rfl
  | cons length lengths ih =>
      rw [total, List.foldl_cons, List.foldl_cons, ih, ih]
      simp [Nat.add_assoc]

theorem total_cons (length : Nat) (lengths : List Nat) :
    total (length :: lengths) = length + total lengths := by
  rw [total, List.foldl_cons, foldl_add]
  simp

theorem daysBeforeYear_succ (year : Int) :
    daysBeforeYear (year + 1) = daysBeforeYear year + total (monthLengths year) := by
  have days : total (monthLengths year) = if isLeap year then 366 else 365 := by
    unfold monthLengths
    cases isLeap year <;> rfl
  rw [days]
  unfold daysBeforeYear isLeap
  simp only [Bool.and_eq_true, Bool.or_eq_true, beq_iff_eq, bne_iff_ne]
  split <;> omega

/-! Months. -/

theorem monthAndDay_eq (month : Nat) {day : Nat} {lengths : List Nat}
    (inside : day < total lengths) :
    ∃ index length more, lengths[index]? = some length ∧ more < length ∧
      day = total (lengths.take index) + more ∧
      monthAndDay month day lengths = (month + index, more + 1) := by
  induction lengths generalizing month day with
  | nil => simp [total] at inside
  | cons length lengths ih =>
      by_cases first : day < length
      · exact ⟨0, length, day, by simp [monthAndDay, first, total]⟩
      · rw [total_cons] at inside
        have left : day - length < total lengths := by omega
        obtain ⟨index, found, more, member, within, sum, same⟩ := ih (month + 1) left
        refine ⟨index + 1, found, more, by simpa using member, within, ?_, ?_⟩
        · rw [List.take_succ_cons, total_cons]
          omega
        · rw [monthAndDay, if_neg first, same, Nat.add_assoc, Nat.add_comm 1]

theorem length_monthLengths (year : Int) : (monthLengths year).length = 12 := rfl

theorem le_of_mem_monthLengths {year : Int} {length : Nat} (member : length ∈ monthLengths year) :
    length ≤ 31 := by
  have all : ∀ leap : Bool, ∀ length ∈ [31, if leap then 29 else 28, 31, 30, 31, 30, 31, 31, 30,
      31, 30, 31], length ≤ 31 := by decide
  exact all (isLeap year) length member

/-! Dates. -/

namespace Date

theorem valid_iff (date : Date) :
    date.valid = true ↔ 1 ≤ date.month ∧ 1 ≤ date.day ∧
      ∃ length, (monthLengths date.year)[date.month - 1]? = some length ∧ date.day ≤ length := by
  unfold valid
  cases (monthLengths date.year)[date.month - 1]? <;> simp [and_assoc]

theorem month_le_of_valid {date : Date} (valid : date.valid = true) : date.month ≤ 12 := by
  obtain ⟨-, -, length, found, -⟩ := date.valid_iff.mp valid
  have bound := (List.getElem?_eq_some_iff.mp found).1
  rw [length_monthLengths] at bound
  omega

theorem day_le_of_valid {date : Date} (valid : date.valid = true) : date.day ≤ 31 := by
  obtain ⟨-, -, length, found, within⟩ := date.valid_iff.mp valid
  exact Nat.le_trans within (le_of_mem_monthLengths (List.mem_of_getElem? found))

theorem ofDays_eq (days : Int) :
    ∃ year index length day, (monthLengths year)[index]? = some length ∧ day < length ∧
      ofDays days = ⟨year, index + 1, day + 1⟩ ∧
      days + epochDays = daysBeforeYear year + total ((monthLengths year).take index) + day := by
  obtain ⟨started, ends⟩ := yearOfDay_holds (days + epochDays)
  rw [daysBeforeYear_succ] at ends
  have inside : (days + epochDays - daysBeforeYear (yearOfDay (days + epochDays))).toNat <
      total (monthLengths (yearOfDay (days + epochDays))) := by
    omega
  obtain ⟨index, length, day, found, within, sum, same⟩ := monthAndDay_eq 1 inside
  refine ⟨yearOfDay (days + epochDays), index, length, day, found, within, ?_, by omega⟩
  rw [ofDays]
  simp only [same, Nat.add_comm 1 index]

theorem ofDays_valid (days : Int) : (ofDays days).valid = true := by
  obtain ⟨year, index, length, day, found, within, same, -⟩ := ofDays_eq days
  rw [same, valid_iff]
  exact ⟨by simp, by simp, length, found, within⟩

theorem toDays_ofDays (days : Int) : (ofDays days).toDays = days := by
  obtain ⟨year, index, length, day, -, -, same, counted⟩ := ofDays_eq days
  rw [same, toDays]
  change _ + ((total ((monthLengths year).take index) : Nat) : Int) + _ - _ = days
  push_cast
  omega

end Date

end Accounts.Time
