import Accounts.Proofs.Text.Utf8
import Accounts.Settings.Environment

/-! What a variable says. One that is unset, one that is blank and one that is no text are alike. -/

namespace Accounts.Settings.Environment

open Text

variable {environment other : Environment} {name text : String}

def Says (environment : Environment) (name text : String) : Prop :=
  environment.bytes? name = some (utf8 text)

structure Gives (environment : Environment) (name text : String) : Prop where
  told : environment.Says name text
  visible : ∃ c ∈ text.toList, isBlank c = false

/-- Whether a variable counts as unset: because it is, because its bytes are no text, or because its
text is blank. -/
inductive Idle (environment : Environment) (name : String) : Prop
  | unset (unset : environment.bytes? name = none)
  | undecodable {bytes : List UInt8} (set : environment.bytes? name = some bytes)
      (undecodable : ∀ text, bytes ≠ utf8 text)
  | blank {text : String} (told : environment.Says name text)
      (blank : ∀ c ∈ text.toList, isBlank c = true)

/-- Whether two environments differ in nothing but variables that count as unset in both, of which
the URL of the database is none. -/
def Alike (environment other : Environment) : Prop :=
  ∀ name, environment.bytes? name = other.bytes? name ∨
    name ≠ "DATABASE_URL" ∧ environment.Idle name ∧ other.Idle name

theorem read_eq_of_bytes (same : environment.bytes? name = other.bytes? name) :
    environment.read name = other.read name := by
  unfold read
  rw [same]

theorem optional_eq_of_read (same : environment.read name = other.read name) :
    environment.optional name = other.optional name := by
  unfold optional
  rw [same]

theorem read_eq_ok : environment.read name = .ok text ↔ environment.Says name text := by
  unfold read Says
  cases environment.bytes? name with
  | none => simp
  | some bytes =>
      rw [Option.some.injEq, ← ofUtf8?_eq_some]
      dsimp only
      cases ofUtf8? bytes <;> simp

theorem optional_eq_some : environment.optional name = some text ↔ environment.Gives name text := by
  have parts : environment.optional name = some text ↔
      environment.read name = .ok text ∧ Text.blank text = false := by
    unfold optional
    cases environment.read name with
    | error fault => simp
    | ok said =>
        by_cases blank : Text.blank said = true
        · simp only [blank, if_true, Except.ok.injEq]
          constructor
          · nofun
          · rintro ⟨rfl, seen⟩
            rw [blank] at seen
            contradiction
        · simp only [Bool.not_eq_true] at blank
          simp only [blank, Bool.false_eq_true, if_false, Option.some.injEq, Except.ok.injEq]
          constructor
          · rintro rfl
            exact ⟨rfl, blank⟩
          · exact fun both => both.1
  rw [parts, read_eq_ok, blank_eq_false]
  exact ⟨fun both => ⟨both.1, both.2⟩, fun gives => ⟨gives.told, gives.visible⟩⟩

theorem Gives.unique {said : String} (gives : environment.Gives name text)
    (gives' : environment.Gives name said) : text = said := by
  have same := gives.told
  rw [Says, gives'.told] at same
  exact (utf8_injective (Option.some.inj same)).symm

theorem Idle.not_gives (idle : environment.Idle name) : ¬ environment.Gives name text := by
  intro gives
  have set : environment.bytes? name = some (utf8 text) := gives.told
  cases idle with
  | unset unset =>
      rw [set] at unset
      contradiction
  | undecodable set' undecodable =>
      rw [set] at set'
      exact undecodable text (Option.some.inj set').symm
  | blank told blank =>
      obtain ⟨c, member, visible⟩ := gives.visible
      rw [Says, set] at told
      rw [utf8_injective (Option.some.inj told)] at member
      rw [blank c member] at visible
      contradiction

theorem idle_or_gives (environment : Environment) (name : String) :
    environment.Idle name ∨ ∃ text, environment.Gives name text := by
  cases set : environment.bytes? name with
  | none => exact .inl (.unset set)
  | some bytes =>
      by_cases decodable : ∃ text, bytes = utf8 text
      · obtain ⟨text, rfl⟩ := decodable
        by_cases visible : ∃ c ∈ text.toList, isBlank c = false
        · exact .inr ⟨text, set, visible⟩
        · left
          apply Idle.blank set
          simpa using visible
      · exact .inl (.undecodable set (by simpa using decodable))

theorem optional_eq_none : environment.optional name = none ↔ environment.Idle name := by
  rcases environment.idle_or_gives name with idle | ⟨text, gives⟩
  · simp only [idle, iff_true]
    cases optional : environment.optional name with
    | none => rfl
    | some text => exact absurd (optional_eq_some.mp optional) idle.not_gives
  · rw [optional_eq_some.mpr gives]
    exact ⟨nofun, fun idle => absurd gives idle.not_gives⟩

theorem Alike.optional (alike : environment.Alike other) (name : String) :
    environment.optional name = other.optional name := by
  rcases alike name with same | ⟨-, idle, idle'⟩
  · exact optional_eq_of_read (read_eq_of_bytes same)
  · rw [optional_eq_none.mpr idle, optional_eq_none.mpr idle']

theorem Alike.url (alike : environment.Alike other) :
    environment.read "DATABASE_URL" = other.read "DATABASE_URL" := by
  rcases alike "DATABASE_URL" with same | ⟨different, -⟩
  · exact read_eq_of_bytes same
  · contradiction

end Accounts.Settings.Environment
