/-! When a chain of steps, each of which may fail, comes to an end. -/

namespace Accounts

theorem except_bind_eq_ok {ε α β : Type} {started : Except ε α} {next : α → Except ε β}
    {value : β} : (started >>= next) = .ok value ↔
      ∃ first, started = .ok first ∧ next first = .ok value := by
  cases started with
  | error fault => exact ⟨nofun, fun ⟨_, same, _⟩ => nomatch same⟩
  | ok first =>
      constructor
      · intro read
        exact ⟨first, rfl, read⟩
      · rintro ⟨other, same, read⟩
        obtain rfl := Except.ok.inj same
        exact read

theorem except_error_bind {ε α β : Type} (fault : ε) (next : α → Except ε β) :
    ((.error fault : Except ε α) >>= next) = .error fault := rfl

theorem except_map_eq_ok {ε α β : Type} {started : Except ε α} {f : α → β} {value : β} :
    started.map f = .ok value ↔ ∃ first, started = .ok first ∧ f first = value := by
  cases started <;> simp [Except.map]

theorem except_mapError_eq_ok {ε ε' α : Type} {started : Except ε α} {f : ε → ε'} {value : α} :
    started.mapError f = .ok value ↔ started = .ok value := by
  cases started with
  | error fault => exact ⟨nofun, nofun⟩
  | ok first =>
      change (.ok first : Except ε' α) = .ok value ↔ _
      simp

theorem except_mapError_eq_error {ε ε' α : Type} {started : Except ε α} {f : ε → ε'} {told : ε'} :
    started.mapError f = .error told ↔ ∃ fault, started = .error fault ∧ f fault = told := by
  cases started with
  | error fault =>
      change (.error (f fault) : Except ε' α) = .error told ↔ _
      simp
  | ok first => exact ⟨nofun, fun ⟨_, same, _⟩ => nomatch same⟩

theorem except_mapError_bind {ε ε' α β : Type} (started : Except ε α) (next : α → Except ε β)
    (f : ε → ε') : (started >>= next).mapError f =
      started.mapError f >>= fun value => (next value).mapError f := by
  cases started with
  | error fault => rfl
  | ok value => rfl

theorem except_mapError_ite {ε ε' α : Type} {refused : Prop} [Decidable refused] (here : ε)
    (next : Except ε α) (f : ε → ε') :
    (if refused then .error here else next : Except ε α).mapError f =
      if refused then .error (f here) else next.mapError f := by
  split
  · rfl
  · rfl

theorem ite_error_eq_ok {ε α : Type} {refused : Prop} [Decidable refused] {fault : ε}
    {next : Except ε α} {value : α} :
    (if refused then .error fault else next) = .ok value ↔ ¬ refused ∧ next = .ok value := by
  by_cases holds : refused
  · rw [if_pos holds]
    exact ⟨nofun, fun both => absurd holds both.1⟩
  · rw [if_neg holds]
    exact (and_iff_right holds).symm

end Accounts
