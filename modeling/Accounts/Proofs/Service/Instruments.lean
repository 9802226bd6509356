import Accounts.Proofs.Except
import Accounts.Proofs.Token.Expiry
import Accounts.Service.UseCases

/-! Which settings the instruments of the service can be made with. The standard cost always will do,
so it is up to the secret and the lifetime of tokens. -/

namespace Accounts.Service

open Token

variable {settings : Settings} {instruments : Instruments}

def standardHasher : Password.Hasher := ⟨.standard, rfl⟩

theorem hasher_of_standard : Password.Hasher.of .standard = .ok standardHasher := rfl

def unfitLifetime (hours : Int) : Failure :=
  .configuration ("token expiry must be a positive number of hours (got " ++
    String.ofList (Text.signedDecimal hours) ++ ")")

namespace Instruments

theorem of_standard_eq_ok :
    Instruments.of settings .standard = .ok instruments ↔
      Signer.of settings = .ok instruments.signer ∧ instruments.hasher = standardHasher := by
  unfold Instruments.of
  rw [except_bind_eq_ok, hasher_of_standard]
  constructor
  · rintro ⟨signer, made, same⟩
    rw [← Except.ok.inj same]
    exact ⟨except_mapError_eq_ok.mp made, rfl⟩
  · rintro ⟨made, hasher⟩
    refine ⟨instruments.signer, except_mapError_eq_ok.mpr made, ?_⟩
    rw [← hasher]
    rfl

theorem exists_of_standard (secret : settings.HasSecret) (inBounds : settings.InBounds) :
    ∃ instruments, Instruments.of settings .standard = .ok instruments := by
  obtain ⟨signer, made⟩ := Signer.exists_of secret inBounds
  exact ⟨⟨signer, standardHasher⟩, of_standard_eq_ok.mpr ⟨made, rfl⟩⟩

theorem of_standard_of_not_inBounds (secret : settings.HasSecret) (apart : ¬ settings.InBounds) :
    Instruments.of settings .standard = .error (unfitLifetime settings.expiryHours) := by
  unfold Instruments.of
  rw [Signer.of_of_not_inBounds secret apart]
  rfl

/-- Of settings with a secret and a positive lifetime, it is only the length of the lifetime that
may be refused. -/
theorem exists_of_standard_iff (secret : settings.HasSecret) (positive : 0 < settings.expiryHours) :
    (∃ instruments, Instruments.of settings .standard = .ok instruments) ↔
      settings.expiryHours ≤ 8784 := by
  constructor
  · rintro ⟨instruments, made⟩
    obtain ⟨signer, -⟩ := of_standard_eq_ok.mp made
    rw [← (Signer.of_eq_ok.mp signer).2]
    exact instruments.signer.expiryHours_le
  · intro short
    exact exists_of_standard secret ⟨positive, short⟩

end Instruments

end Accounts.Service
