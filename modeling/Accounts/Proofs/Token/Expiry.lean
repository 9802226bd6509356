import Accounts.Proofs.Time.Instant
import Accounts.Proofs.Token.RoundTrip

/-! The lifetime of tokens. It is exactly as many hours as a signer has been given, and a signer is
only ever given a number of hours with which it can issue tokens until a year before the end of
time. -/

namespace Accounts.Token

open Json Text Time

/-! Settings. -/

namespace Settings

def HasSecret (settings : Settings) : Prop := ∃ c ∈ settings.secret.toList, isBlank c = false

def InBounds (settings : Settings) : Prop :=
  1 ≤ settings.expiryHours ∧ settings.expiryHours ≤ 8784

theorem blank_secret_eq_false {settings : Settings} :
    blank settings.secret = false ↔ settings.HasSecret := blank_eq_false

theorem blank_secret_eq_true {settings : Settings} :
    blank settings.secret = true ↔ ¬ settings.HasSecret := by
  rw [← blank_secret_eq_false, Bool.not_eq_false]

end Settings

namespace Signer

variable {settings : Settings} {signer : Signer}

theorem of_eq_ok :
    of settings = .ok signer ↔
      signer.secret = settings.secret ∧ signer.expiryHours = settings.expiryHours := by
  obtain ⟨secret, hours⟩ := settings
  constructor
  · intro made
    unfold of at made
    split at made
    · split at made
      · cases made
        exact ⟨rfl, rfl⟩
      · contradiction
    · contradiction
  · rintro ⟨rfl, rfl⟩
    unfold of
    rw [dif_pos signer.secret_not_blank,
      dif_pos ⟨signer.one_le_expiryHours, signer.expiryHours_le⟩]

theorem of_of_not_hasSecret (blanks : ¬ settings.HasSecret) :
    of settings = .error .missingSecret := by
  have blank := Settings.blank_secret_eq_true.mpr blanks
  unfold of
  rw [dif_neg (by simp [blank])]

theorem of_of_not_inBounds (secret : settings.HasSecret) (apart : ¬ settings.InBounds) :
    of settings = .error (.invalidExpiry settings.expiryHours) := by
  unfold of
  rw [dif_pos (Settings.blank_secret_eq_false.mpr secret)]
  exact dif_neg apart

theorem exists_of (secret : settings.HasSecret) (inBounds : settings.InBounds) :
    ∃ signer, of settings = .ok signer := by
  refine ⟨⟨settings.secret, settings.expiryHours, Settings.blank_secret_eq_false.mpr secret, inBounds.1,
    inBounds.2⟩, ?_⟩
  exact of_eq_ok.mpr ⟨rfl, rfl⟩

/-! Issuing. -/

theorem elapsed_lifetime (signer : Signer) :
    signer.expirySeconds * 1000000000 = signer.expiryHours * 3600000000000 := by
  rw [expirySeconds]
  omega

theorem issue_eq_error {userId username role : String} {now : Instant} :
    signer.issue userId username role now = .error (.invalidExpiry signer.expiryHours) ↔
      Instant.last.elapsed < now.elapsed + signer.expiryHours * 3600000000000 := by
  have forward : 0 ≤ signer.expirySeconds := by
    have positive := signer.one_le_expiryHours
    rw [expirySeconds]
    omega
  rw [← signer.elapsed_lifetime, ← Instant.later?_eq_none forward, issue]
  cases now.later? signer.expirySeconds with
  | none => simp
  | some expiry => simp

theorem issue_cases (signer : Signer) (userId username role : String) (now : Instant) :
    (∃ token, signer.issue userId username role now = .ok token) ∨
      signer.issue userId username role now = .error (.invalidExpiry signer.expiryHours) := by
  unfold issue
  cases now.later? signer.expirySeconds with
  | none => exact .inr rfl
  | some expiry => exact .inl ⟨_, rfl⟩

def Carries (token : String) (claims : Claims) : Prop :=
  ∃ parts, Parts.of? token = some parts ∧ readPart Claims.reader parts.payload = .ok claims

theorem carries_sign (signer : Signer) {claims : Claims} (fits : claims.Fits) :
    Carries (signer.sign claims) claims :=
  ⟨_, Parts.of?_join _ _ _, readPart_documentPart (Claims.reader_reads fits)⟩

theorem carries_of_issue {userId username role : String} {now : Instant} {token : String}
    (issued : signer.issue userId username role now = .ok token) :
    ∃ exp, Carries token { userId, username, role, iat := now.second, exp } ∧
      exp - now.second = 3600 * signer.expiryHours ∧
      -0x8000000000000000 ≤ exp ∧ exp < 0x8000000000000000 := by
  obtain ⟨expiry, later, rfl⟩ := issue_eq_ok issued
  have fits := fits_of_instants userId username role now expiry
  have second := Instant.second_of_later? later
  refine ⟨expiry.second, signer.carries_sign fits, ?_, fits.exp_least, fits.exp_most⟩
  rw [second, expirySeconds]
  omega

structure IssuesFor (signer : Signer) (hours : Int) (userId username role : String)
    (now : Instant) : Prop where
  refused : signer.issue userId username role now = .error (.invalidExpiry hours) ↔
    Instant.last.elapsed < now.elapsed + hours * 3600000000000
  otherwise : (∃ token, signer.issue userId username role now = .ok token) ∨
    signer.issue userId username role now = .error (.invalidExpiry hours)
  carries : ∀ token, signer.issue userId username role now = .ok token →
    ∃ exp, Carries token { userId, username, role, iat := now.second, exp } ∧
      exp - now.second = 3600 * hours ∧
      -0x8000000000000000 ≤ exp ∧ exp < 0x8000000000000000

theorem issuesFor_expiryHours (signer : Signer) (userId username role : String) (now : Instant) :
    signer.IssuesFor signer.expiryHours userId username role now where
  refused := issue_eq_error
  otherwise := signer.issue_cases userId username role now
  carries := fun _ => carries_of_issue

def leapYear : Int := 366 * 24 * 3600000000000

theorem exists_issue (signer : Signer) (userId username role : String) {now : Instant}
    (early : now.elapsed + leapYear ≤ Instant.last.elapsed) :
    ∃ token, signer.issue userId username role now = .ok token := by
  have most : signer.expiryHours ≤ 8784 := signer.expiryHours_le
  have year : leapYear = 8784 * 3600000000000 := rfl
  apply (signer.issue_cases userId username role now).resolve_right
  rw [issue_eq_error]
  omega

end Signer

/-- The lifetime of tokens is exact. A signer is made of settings with a secret and from 1 to 8784
hours, of which the secret is missed first. What it issues expires that many hours later to the
second, and it fails to issue only where this would be beyond the last instant, which is never
before a leap year before it. -/
theorem lifetime_is_exact (settings : Settings) :
    ((∃ signer, Signer.of settings = .ok signer) ↔ settings.HasSecret ∧ settings.InBounds) ∧
    (¬ settings.HasSecret → Signer.of settings = .error .missingSecret) ∧
    (settings.HasSecret → ¬ settings.InBounds →
      Signer.of settings = .error (.invalidExpiry settings.expiryHours)) ∧
    ∀ signer, Signer.of settings = .ok signer → ∀ (userId username role : String) (now : Instant),
      signer.IssuesFor settings.expiryHours userId username role now ∧
      (now.elapsed + Signer.leapYear ≤ Instant.last.elapsed →
        ∃ token, signer.issue userId username role now = .ok token) := by
  refine ⟨⟨?_, ?_⟩, Signer.of_of_not_hasSecret, Signer.of_of_not_inBounds, ?_⟩
  · rintro ⟨signer, made⟩
    obtain ⟨secret, hours⟩ := Signer.of_eq_ok.mp made
    refine ⟨Settings.blank_secret_eq_false.mp (secret ▸ signer.secret_not_blank), ?_⟩
    rw [Settings.InBounds, ← hours]
    exact ⟨signer.one_le_expiryHours, signer.expiryHours_le⟩
  · rintro ⟨secret, inBounds⟩
    exact Signer.exists_of secret inBounds
  · intro signer made userId username role now
    rw [← (Signer.of_eq_ok.mp made).2]
    exact ⟨signer.issuesFor_expiryHours userId username role now, signer.exists_issue _ _ _⟩

/-- The longest lifetime, from a leap second: there is a token at the last second from which it ends
in time, and none a second later. -/
theorem lifetime_is_exact_leap_second :
    let settings : Settings := ⟨" key ", 8784⟩
    let now : Instant := ⟨8210235254399, 1999999999, by decide, by decide, by decide⟩
    let next : Instant := ⟨8210235254400, 0, by decide, by decide, by decide⟩
    settings.HasSecret ∧ settings.InBounds ∧ ∃ signer, Signer.of settings = .ok signer ∧
      (∃ token, signer.issue "" "" "" now = .ok token ∧
        Signer.Carries token ⟨"", "", "", 8210235254399, 8210266876799⟩) ∧
      signer.issue "" "" "" next = .error (.invalidExpiry 8784) := by
  intro settings now next
  have secret : settings.HasSecret := ⟨'k', by decide, by decide⟩
  have inBounds : settings.InBounds := ⟨by decide, by decide⟩
  obtain ⟨made, -, -, issues⟩ := lifetime_is_exact settings
  obtain ⟨signer, same⟩ := made.mpr ⟨secret, inBounds⟩
  refine ⟨secret, inBounds, signer, same, ?_, ?_⟩
  · obtain ⟨exact, never⟩ := issues signer same "" "" "" now
    obtain ⟨token, issued⟩ := never (by decide)
    obtain ⟨exp, carries, lifetime, -⟩ := exact.carries token issued
    change exp - 8210235254399 = 3600 * 8784 at lifetime
    obtain rfl : exp = 8210266876799 := by omega
    exact ⟨token, issued, carries⟩
  · exact (issues signer same "" "" "" next).1.refused.mpr (by decide)

end Accounts.Token
