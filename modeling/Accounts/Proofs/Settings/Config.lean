import Accounts.Proofs.Except
import Accounts.Proofs.Settings.Environment
import Accounts.Proofs.Text.Numerals
import Accounts.Proofs.Text.Scanner
import Accounts.Settings.Config

/-! When a configuration is loaded, and which one: each setting from its own variables, and from
nothing else. -/

namespace Accounts.Settings

open Environment Text

variable {environment other : Environment} {name : String} {α : Type}

/-! Single settings. -/

/-- What a variable sets: a value that its text writes between blanks, or another value where the
variable counts as unset. -/
inductive Setting (environment : Environment) (name : String) (Writes : String → α → Prop)
    (unset : α) : α → Prop
  | unset (idle : environment.Idle name) : Setting environment name Writes unset unset
  | given {text : String} {value : α} (gives : environment.Gives name text)
      (writes : Writes (trim text) value) : Setting environment name Writes unset value

def WritesAtMost (greatest : Nat) (text : String) (n : Nat) : Prop :=
  WritesUnsigned text.toList n ∧ n ≤ greatest

def WritesHours (text : String) (hours : Int) : Prop :=
  WritesSigned text.toList hours ∧ -0x8000000000000000 ≤ hours ∧ hours ≤ 0x7FFFFFFFFFFFFFFF

def WritesAddress (text : String) (address : Net.SocketAddress) : Prop :=
  Net.SocketAddress.parse? text = some address

theorem readUnsigned_iff (greatest : Nat) (text : String) (n : Nat) :
    readUnsigned greatest text = .ok n ↔ WritesAtMost greatest text n :=
  except_mapError_eq_ok.trans readUnsigned_eq_ok

theorem readSigned_iff (text : String) (hours : Int) :
    readSigned text = .ok hours ↔ WritesHours text hours :=
  except_mapError_eq_ok.trans readSigned_eq_ok

theorem readAddress_iff (text : String) (address : Net.SocketAddress) :
    readAddress text = .ok address ↔ WritesAddress text address := by
  unfold readAddress WritesAddress
  cases Net.SocketAddress.parse? text <;> simp

theorem readOr_eq_ok {read : String → Except String α} {Writes : String → α → Prop} {unset value : α}
    (exact : ∀ text value, read text = .ok value ↔ Writes text value) :
    readOr environment name read unset = .ok value ↔
      Setting environment name Writes unset value := by
  unfold readOr
  rcases environment.idle_or_gives name with idle | ⟨text, gives⟩
  · rw [optional_eq_none.mpr idle]
    constructor
    · intro same
      rw [← Except.ok.inj same]
      exact .unset idle
    · intro setting
      cases setting with
      | unset => rfl
      | given gives => exact absurd gives idle.not_gives
  · rw [optional_eq_some.mpr gives]
    dsimp only
    rw [except_mapError_eq_ok, exact]
    constructor
    · exact .given gives
    · intro setting
      cases setting with
      | unset idle => exact absurd gives idle.not_gives
      | given gives' writes =>
          rwa [gives.unique gives']

/-! Settings of several variables. -/

/-- Where users are stored. What belongs to one driver is not looked at for the other. -/
inductive LoadsDatabase (environment : Environment) : Database → Prop
  | postgres {url : String} {maxConnections : Nat}
      (driver : environment.Idle "DATABASE_DRIVER" ∨ environment.Gives "DATABASE_DRIVER" "postgres")
      (told : environment.Says "DATABASE_URL" url)
      (connections : Setting environment "DATABASE_MAX_CONNECTIONS" (WritesAtMost 0xFFFFFFFF) 5
        maxConnections) : LoadsDatabase environment (.postgres url maxConnections)
  | memory (driver : environment.Gives "DATABASE_DRIVER" "memory") :
      LoadsDatabase environment .memory

inductive LoadsOrigins (environment : Environment) : List String → Prop
  | standard (idle : environment.Idle "FRONTEND_ORIGINS") :
      LoadsOrigins environment ["http://localhost:3000", "http://127.0.0.1:3000"]
  | given {text : String} {pieces : List (List Char)}
      (gives : environment.Gives "FRONTEND_ORIGINS" text) (cut : CutAt ',' text.toList pieces) :
      LoadsOrigins environment ((pieces.map fun piece => trim (String.ofList piece)).filter (· ≠ ""))

inductive LoadsAdmin (environment : Environment) : Option Service.DefaultAdmin → Prop
  | none (noUsername : environment.Idle "DEFAULT_ADMIN_USERNAME")
      (noEmail : environment.Idle "DEFAULT_ADMIN_EMAIL")
      (noPassword : environment.Idle "DEFAULT_ADMIN_PASSWORD") : LoadsAdmin environment none
  | some {username email password : String}
      (givesUsername : environment.Gives "DEFAULT_ADMIN_USERNAME" username)
      (givesEmail : environment.Gives "DEFAULT_ADMIN_EMAIL" email)
      (givesPassword : environment.Gives "DEFAULT_ADMIN_PASSWORD" password) :
      LoadsAdmin environment (some ⟨username, email, password⟩)

theorem readDatabase_of_postgres
    (driver : environment.Idle "DATABASE_DRIVER" ∨ environment.Gives "DATABASE_DRIVER" "postgres") :
    readDatabase environment = do
      let url ← (environment.read "DATABASE_URL").mapError .missingUrl
      let maxConnections ← readOr environment "DATABASE_MAX_CONNECTIONS" (readUnsigned 0xFFFFFFFF) 5
      return .postgres url maxConnections := by
  unfold readDatabase
  rcases driver with idle | gives
  · rw [optional_eq_none.mpr idle]
    rfl
  · rw [optional_eq_some.mpr gives]
    rfl

theorem readDatabase_of_gives {driver : String} (gives : environment.Gives "DATABASE_DRIVER" driver)
    (other : driver ≠ "postgres") :
    readDatabase environment =
      if driver = "memory" then .ok .memory else .error (.unsupportedDriver driver) := by
  unfold readDatabase
  rw [optional_eq_some.mpr gives]
  exact if_neg other

theorem readDatabase_eq_ok {database : Database} :
    readDatabase environment = .ok database ↔ LoadsDatabase environment database := by
  constructor
  · intro read
    by_cases driver : environment.Idle "DATABASE_DRIVER" ∨
        environment.Gives "DATABASE_DRIVER" "postgres"
    · rw [readDatabase_of_postgres driver, except_bind_eq_ok] at read
      obtain ⟨url, reads, read⟩ := read
      obtain ⟨maxConnections, connections, same⟩ := except_bind_eq_ok.mp read
      rw [← Except.ok.inj same]
      exact .postgres driver (read_eq_ok.mp (except_mapError_eq_ok.mp reads))
        ((readOr_eq_ok (readUnsigned_iff _)).mp connections)
    · rw [not_or] at driver
      obtain ⟨text, gives⟩ := (environment.idle_or_gives "DATABASE_DRIVER").resolve_left driver.1
      have other : text ≠ "postgres" := by
        intro same
        rw [same] at gives
        exact driver.2 gives
      rw [readDatabase_of_gives gives other] at read
      split at read
      next memory =>
        rw [memory] at gives
        rw [← Except.ok.inj read]
        exact .memory gives
      next => contradiction
  · intro loads
    cases loads with
    | postgres driver told connections =>
        have reads := (readOr_eq_ok (readUnsigned_iff _)).mpr connections
        rw [readDatabase_of_postgres driver, read_eq_ok.mpr told, reads]
        rfl
    | memory gives =>
        rw [readDatabase_of_gives gives (by decide)]
        rfl

theorem readOrigins_eq {text : String} {pieces : List (List Char)}
    (cut : CutAt ',' text.toList pieces) :
    readOrigins text = (pieces.map fun piece => trim (String.ofList piece)).filter (· ≠ "") := by
  rw [readOrigins, cutAt_iff.mp cut]

theorem origins_iff {origins : List String} :
    readOrigins ((environment.optional "FRONTEND_ORIGINS").getD standardOrigins) = origins ↔
      LoadsOrigins environment origins := by
  have standard :
      readOrigins standardOrigins = ["http://localhost:3000", "http://127.0.0.1:3000"] := by
    decide +kernel
  rcases environment.idle_or_gives "FRONTEND_ORIGINS" with idle | ⟨text, gives⟩
  · rw [optional_eq_none.mpr idle, Option.getD_none, standard]
    constructor
    · rintro rfl
      exact .standard idle
    · intro loads
      cases loads with
      | standard => rfl
      | given gives cut => exact absurd gives idle.not_gives
  · rw [optional_eq_some.mpr gives, Option.getD_some]
    constructor
    · rintro rfl
      exact .given gives (cutAt_iff.mpr rfl)
    · intro loads
      cases loads with
      | standard idle => exact absurd gives idle.not_gives
      | given gives' cut =>
          rw [gives.unique gives']
          exact readOrigins_eq cut

theorem readAdmin_eq_ok {admin : Option Service.DefaultAdmin} :
    readAdmin environment = .ok admin ↔ LoadsAdmin environment admin := by
  constructor
  · intro read
    unfold readAdmin at read
    split at read
    next username email password givesUsername givesEmail givesPassword =>
      rw [← Except.ok.inj read]
      exact .some (optional_eq_some.mp givesUsername) (optional_eq_some.mp givesEmail)
        (optional_eq_some.mp givesPassword)
    next noUsername noEmail noPassword =>
      rw [← Except.ok.inj read]
      exact .none (optional_eq_none.mp noUsername) (optional_eq_none.mp noEmail)
        (optional_eq_none.mp noPassword)
    next => contradiction
  · intro loads
    unfold readAdmin
    cases loads with
    | none noUsername noEmail noPassword =>
        rw [optional_eq_none.mpr noUsername, optional_eq_none.mpr noEmail,
          optional_eq_none.mpr noPassword]
    | some givesUsername givesEmail givesPassword =>
        rw [optional_eq_some.mpr givesUsername, optional_eq_some.mpr givesEmail,
          optional_eq_some.mpr givesPassword]

/-! Whole configurations. -/

structure Loads (environment : Environment) (config : Config) : Prop where
  database : LoadsDatabase environment config.database
  address : Setting environment "HTTP_ADDR" WritesAddress (.v4 [0, 0, 0, 0] 8080) config.address
  timeout : Setting environment "REQUEST_TIMEOUT_SECS" (WritesAtMost 0xFFFFFFFFFFFFFFFF) 30
    config.timeoutSeconds
  origins : LoadsOrigins environment config.origins
  secret : environment.Gives "JWT_SECRET" config.token.secret
  expiry : Setting environment "JWT_EXPIRY_HOURS" WritesHours 24 config.token.expiryHours
  positive : 0 < config.token.expiryHours
  cost : config.cost = .standard
  admin : LoadsAdmin environment config.admin

def Sound (environment : Environment) (name : String) (Writes : String → α → Prop) : Prop :=
  environment.Idle name ∨ ∃ text value, environment.Gives name text ∧ Writes (trim text) value

structure Acceptable (environment : Environment) : Prop where
  database :
    (environment.Idle "DATABASE_DRIVER" ∨ environment.Gives "DATABASE_DRIVER" "postgres") ∧
      (∃ url, environment.Says "DATABASE_URL" url) ∧
      Sound environment "DATABASE_MAX_CONNECTIONS" (WritesAtMost 0xFFFFFFFF) ∨
    environment.Gives "DATABASE_DRIVER" "memory"
  address : Sound environment "HTTP_ADDR" WritesAddress
  timeout : Sound environment "REQUEST_TIMEOUT_SECS" (WritesAtMost 0xFFFFFFFFFFFFFFFF)
  secret : ∃ secret, environment.Gives "JWT_SECRET" secret
  expiry : Sound environment "JWT_EXPIRY_HOURS" fun text hours => WritesHours text hours ∧ 0 < hours
  admin :
    environment.Idle "DEFAULT_ADMIN_USERNAME" ∧ environment.Idle "DEFAULT_ADMIN_EMAIL" ∧
      environment.Idle "DEFAULT_ADMIN_PASSWORD" ∨
    (∃ username, environment.Gives "DEFAULT_ADMIN_USERNAME" username) ∧
      (∃ email, environment.Gives "DEFAULT_ADMIN_EMAIL" email) ∧
      ∃ password, environment.Gives "DEFAULT_ADMIN_PASSWORD" password

theorem Loads.of_read {config : Config} (read : Config.read environment = .ok config) :
    Loads environment config := by
  unfold Config.read at read
  obtain ⟨database, loadsDatabase, read⟩ := except_bind_eq_ok.mp read
  obtain ⟨address, readsAddress, read⟩ := except_bind_eq_ok.mp read
  obtain ⟨timeout, readsTimeout, read⟩ := except_bind_eq_ok.mp read
  dsimp only at read
  split at read
  next secret givesSecret =>
    obtain ⟨hours, readsHours, read⟩ := except_bind_eq_ok.mp read
    split at read
    · contradiction
    next positive =>
      obtain ⟨admin, loadsAdmin, same⟩ := except_bind_eq_ok.mp read
      rw [← Except.ok.inj same]
      exact
        { database := readDatabase_eq_ok.mp loadsDatabase
          address := (readOr_eq_ok readAddress_iff).mp readsAddress
          timeout := (readOr_eq_ok (readUnsigned_iff _)).mp readsTimeout
          origins := origins_iff.mp rfl
          secret := optional_eq_some.mp givesSecret
          expiry := (readOr_eq_ok readSigned_iff).mp readsHours
          positive := Int.lt_of_not_ge positive
          cost := rfl
          admin := readAdmin_eq_ok.mp loadsAdmin }
  · contradiction

theorem Loads.read {config : Config} (loads : Loads environment config) :
    Config.read environment = .ok config := by
  have address := (readOr_eq_ok readAddress_iff).mpr loads.address
  have timeout := (readOr_eq_ok (readUnsigned_iff _)).mpr loads.timeout
  have expiry := (readOr_eq_ok readSigned_iff).mpr loads.expiry
  have positive : ¬ config.token.expiryHours ≤ 0 := Int.not_le_of_gt loads.positive
  unfold Config.read
  rw [readDatabase_eq_ok.mpr loads.database, standardAddress, address, timeout,
    origins_iff.mpr loads.origins, optional_eq_some.mpr loads.secret, expiry,
    readAdmin_eq_ok.mpr loads.admin, ← loads.cost]
  exact if_neg positive

theorem read_eq_ok_iff {config : Config} :
    Config.read environment = .ok config ↔ Loads environment config :=
  ⟨Loads.of_read, Loads.read⟩

theorem sound_iff {Writes : String → α → Prop} (unset : α) :
    Sound environment name Writes ↔ ∃ value, Setting environment name Writes unset value := by
  constructor
  · rintro (idle | ⟨text, value, gives, writes⟩)
    · exact ⟨unset, .unset idle⟩
    · exact ⟨value, .given gives writes⟩
  · rintro ⟨value, setting⟩
    cases setting with
    | unset idle => exact .inl idle
    | given gives writes => exact .inr ⟨_, value, gives, writes⟩

theorem database_iff : (∃ database, LoadsDatabase environment database) ↔
    (environment.Idle "DATABASE_DRIVER" ∨ environment.Gives "DATABASE_DRIVER" "postgres") ∧
      (∃ url, environment.Says "DATABASE_URL" url) ∧
      Sound environment "DATABASE_MAX_CONNECTIONS" (WritesAtMost 0xFFFFFFFF) ∨
    environment.Gives "DATABASE_DRIVER" "memory" := by
  constructor
  · rintro ⟨database, loads⟩
    cases loads with
    | postgres driver told connections =>
        exact .inl ⟨driver, ⟨_, told⟩, (sound_iff 5).mpr ⟨_, connections⟩⟩
    | memory gives => exact .inr gives
  · rintro (⟨driver, ⟨url, told⟩, connections⟩ | gives)
    · obtain ⟨maxConnections, setting⟩ := (sound_iff 5).mp connections
      exact ⟨_, .postgres driver told setting⟩
    · exact ⟨_, .memory gives⟩

theorem expiry_iff :
    (∃ hours, Setting environment "JWT_EXPIRY_HOURS" WritesHours 24 hours ∧ 0 < hours) ↔
      Sound environment "JWT_EXPIRY_HOURS" fun text hours => WritesHours text hours ∧ 0 < hours := by
  constructor
  · rintro ⟨hours, setting, positive⟩
    cases setting with
    | unset idle => exact .inl idle
    | given gives writes => exact .inr ⟨_, hours, gives, writes, positive⟩
  · rintro (idle | ⟨text, hours, gives, writes, positive⟩)
    · exact ⟨24, .unset idle, by decide⟩
    · exact ⟨hours, .given gives writes, positive⟩

theorem admin_iff : (∃ admin, LoadsAdmin environment admin) ↔
    environment.Idle "DEFAULT_ADMIN_USERNAME" ∧ environment.Idle "DEFAULT_ADMIN_EMAIL" ∧
      environment.Idle "DEFAULT_ADMIN_PASSWORD" ∨
    (∃ username, environment.Gives "DEFAULT_ADMIN_USERNAME" username) ∧
      (∃ email, environment.Gives "DEFAULT_ADMIN_EMAIL" email) ∧
      ∃ password, environment.Gives "DEFAULT_ADMIN_PASSWORD" password := by
  constructor
  · rintro ⟨admin, loads⟩
    cases loads with
    | none noUsername noEmail noPassword => exact .inl ⟨noUsername, noEmail, noPassword⟩
    | some givesUsername givesEmail givesPassword =>
        exact .inr ⟨⟨_, givesUsername⟩, ⟨_, givesEmail⟩, ⟨_, givesPassword⟩⟩
  · rintro (⟨noUsername, noEmail, noPassword⟩ |
      ⟨⟨username, givesUsername⟩, ⟨email, givesEmail⟩, ⟨password, givesPassword⟩⟩)
    · exact ⟨_, .none noUsername noEmail noPassword⟩
    · exact ⟨_, .some givesUsername givesEmail givesPassword⟩

theorem Loads.acceptable {config : Config} (loads : Loads environment config) :
    Acceptable environment where
  database := database_iff.mp ⟨_, loads.database⟩
  address := (sound_iff _).mpr ⟨_, loads.address⟩
  timeout := (sound_iff _).mpr ⟨_, loads.timeout⟩
  secret := ⟨_, loads.secret⟩
  expiry := expiry_iff.mp ⟨_, loads.expiry, loads.positive⟩
  admin := admin_iff.mp ⟨_, loads.admin⟩

theorem Acceptable.loads (acceptable : Acceptable environment) :
    ∃ config, Loads environment config := by
  obtain ⟨database, loadsDatabase⟩ := database_iff.mpr acceptable.database
  obtain ⟨address, setsAddress⟩ := (sound_iff _).mp acceptable.address
  obtain ⟨timeout, setsTimeout⟩ := (sound_iff _).mp acceptable.timeout
  obtain ⟨secret, givesSecret⟩ := acceptable.secret
  obtain ⟨hours, setsHours, positive⟩ := expiry_iff.mpr acceptable.expiry
  obtain ⟨admin, loadsAdmin⟩ := admin_iff.mpr acceptable.admin
  exact ⟨⟨database, address, timeout, _, ⟨secret, hours⟩, .standard, admin⟩,
    { database := loadsDatabase
      address := setsAddress
      timeout := setsTimeout
      origins := origins_iff.mp rfl
      secret := givesSecret
      expiry := setsHours
      positive
      cost := rfl
      admin := loadsAdmin }⟩

/-- Environments that are alike give one configuration, or are refused for one reason. -/
theorem read_eq_of_alike (alike : environment.Alike other) :
    Config.read environment = Config.read other := by
  unfold Config.read readDatabase readAdmin readOr
  simp only [alike.optional, alike.url]

/-- The configuration is loaded exactly as the environment describes it. Variables that are blank or
no text might as well be unset, the URL of the database apart; a configuration is given just where
each setting is sound; and it is the one that the settings make up. -/
theorem loading_is_exact (environment : Environment) :
    (∀ other, environment.Alike other → Config.read environment = Config.read other) ∧
    ((∃ config, Config.read environment = .ok config) ↔ Acceptable environment) ∧
    ∀ config, Config.read environment = .ok config ↔ Loads environment config := by
  refine ⟨fun _ => read_eq_of_alike, ?_, fun _ => read_eq_ok_iff⟩
  simp only [read_eq_ok_iff]
  constructor
  · rintro ⟨config, loads⟩
    exact loads.acceptable
  · exact Acceptable.loads

/-- Two environments that differ in an address that is no text and in a blank timeout. -/
theorem loading_is_exact_blanks :
    let shared : List (String × List UInt8) :=
      [("DATABASE_DRIVER", utf8 "memory"), ("JWT_SECRET", utf8 " key "),
       ("JWT_EXPIRY_HOURS", utf8 " +0012\n"), ("FRONTEND_ORIGINS", utf8 "b, ,a,b")]
    let clean : Environment := ⟨shared⟩
    let noisy : Environment :=
      ⟨shared ++ [("HTTP_ADDR", [0xFF]), ("REQUEST_TIMEOUT_SECS", utf8 "\t")]⟩
    let config : Config :=
      ⟨.memory, .v4 [0, 0, 0, 0] 8080, 30, ["b", "a", "b"], ⟨" key ", 12⟩, .standard, none⟩
    noisy.Alike clean ∧ Acceptable clean ∧ Config.read clean = .ok config ∧
      Config.read noisy = .ok config := by
  intro shared clean noisy config
  have undecodable : ∀ text, [0xFF] ≠ utf8 text := by
    intro text same
    have none : ofUtf8? [0xFF] = none := by decide +kernel
    rw [ofUtf8?_eq_some.mpr same] at none
    contradiction
  have alike : noisy.Alike clean := by
    intro name
    by_cases address : name = "HTTP_ADDR"
    · rw [address]
      exact .inr ⟨by decide, .undecodable rfl undecodable, .unset rfl⟩
    · by_cases timeout : name = "REQUEST_TIMEOUT_SECS"
      · rw [timeout]
        exact .inr ⟨by decide, .blank rfl (by simp; decide), .unset rfl⟩
      · left
        simp [noisy, clean, bytes?, List.find?_append, Ne.symm address, Ne.symm timeout]
  have trimmed : trim " +0012\n" = "+0012" := by decide +kernel
  have digits : WritesNumber ['0', '0', '1', '2'] 12 := ⟨by decide, by simp, by decide⟩
  have writes : WritesHours (trim " +0012\n") 12 := by
    rw [trimmed]
    exact ⟨.inl ⟨12, .inr ⟨_, rfl, digits⟩, rfl⟩, by decide, by decide⟩
  have loads : Loads clean config :=
    { database := .memory ⟨rfl, 'm', by decide, by decide⟩
      address := .unset (.unset rfl)
      timeout := .unset (.unset rfl)
      origins := origins_iff.mp (by decide +kernel)
      secret := ⟨rfl, 'k', by decide, by decide⟩
      expiry := .given ⟨rfl, '+', by decide, by decide⟩ writes
      positive := by decide
      cost := rfl
      admin := .none (.unset rfl) (.unset rfl) (.unset rfl) }
  obtain ⟨same, -, -⟩ := loading_is_exact noisy
  obtain ⟨-, acceptable, reads⟩ := loading_is_exact clean
  have read := (reads config).mpr loads
  exact ⟨alike, acceptable.mp ⟨config, read⟩, read, (same clean alike).trans read⟩

end Accounts.Settings
