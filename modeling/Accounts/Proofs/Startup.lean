import Accounts.Proofs.Seeding
import Accounts.Proofs.Service.Instruments
import Accounts.Proofs.Settings.Config
import Accounts.Startup

/-! How starting the server ends. The configuration admits two settings with which the server cannot
serve: a lifetime of tokens beyond a leap year, which is refused only after a database server has
been connected to, and an origin that stands for every origin, at which the start breaks off. -/

namespace Accounts

open Service Settings Store Text

/-! The first administrator on an empty table. -/

namespace Service

structure DefaultAdmin.Creatable (admin : DefaultAdmin) : Prop where
  username : (UserName.of admin.username).isOk
  email : (Email.of admin.email).isOk
  password : (Password.ClearText.of admin.password).isOk

section Empty

variable {admin : DefaultAdmin} (hasher : Password.Hasher) (supply : Supply)

theorem seedOn_empty_of_creatable (creatable : admin.Creatable) :
    ∃ id, (seedOn hasher admin ⟨.empty, supply⟩).1 = .ok (.created id) := by
  obtain ⟨name, username⟩ := exists_of_isOk creatable.username
  obtain ⟨address, email⟩ := exists_of_isOk creatable.email
  obtain ⟨clear, password⟩ := exists_of_isOk creatable.password
  have read := readNames_ok username email
  rw [seedOn_of_absent hasher read (readPassword_of_ok password) rfl,
    Table.create_of_free _ _ rfl]
  exact ⟨_, rfl⟩

theorem seedOn_empty_of_refusedPassword {names : UserName × Email} {error : Password.PolicyError}
    (read : readNames admin.username admin.email = .ok names)
    (refused : Password.ClearText.of admin.password = .error error) :
    (seedOn hasher admin ⟨.empty, supply⟩).1 = .error (.validation error.message) := by
  rw [seedOn, seed_eq, read]
  dsimp only
  have absent : Table.empty.find (fun user => user.username.text == names.1.text) =
      .error .userNotFound := rfl
  rw [Backend.run_ask, Backend.perform_findByUsername, absent, afterSought, foundUser,
    readPassword_of_refused refused]
  rfl

theorem seedOn_empty_of_not_creatable (refused : ¬ admin.Creatable) :
    ∃ reason, (seedOn hasher admin ⟨.empty, supply⟩).1 = .error (.validation reason) := by
  by_cases named : (UserName.of admin.username).isOk ∧ (Email.of admin.email).isOk
  · obtain ⟨name, username⟩ := exists_of_isOk named.1
    obtain ⟨address, email⟩ := exists_of_isOk named.2
    cases password : Password.ClearText.of admin.password with
    | error error =>
        exact ⟨error.message,
          seedOn_empty_of_refusedPassword hasher supply (readNames_ok username email) password⟩
    | ok clear =>
        have accepted : (Password.ClearText.of admin.password).isOk := by
          rw [password]
          rfl
        exact absurd ⟨named.1, named.2, accepted⟩ refused
  · obtain ⟨reason, same⟩ := seed_of_invalid named
    refine ⟨reason, ?_⟩
    rw [seedOn, same]
    rfl

end Empty

end Service

/-! The allowed origins. -/

namespace Http.Cors

variable {origins : List String}

theorem isHeaderValue_anyOrigin : isHeaderValue anyOrigin = true := by decide +kernel

theorem of?_of_mem (star : anyOrigin ∈ origins) : of? origins = none := by
  -- What cannot be a header value is left out before, but the star can.
  have kept := List.mem_filter.mpr ⟨star, isHeaderValue_anyOrigin⟩
  exact dif_neg (not_not.mpr kept)

theorem of?_of_not_mem (named : anyOrigin ∉ origins) :
    ∃ cors, of? origins = some cors ∧ cors.origins = origins.filter isHeaderValue := by
  have dropped : anyOrigin ∉ origins.filter isHeaderValue := by
    intro kept
    exact named (List.mem_filter.mp kept).1
  exact ⟨⟨_, dropped⟩, dif_pos dropped, rfl⟩

end Http.Cors

namespace Settings

variable {environment : Environment} {config : Config} {database : Database}
  {origins : List String}

def NamesEveryone (environment : Environment) : Prop :=
  ∃ text pieces, environment.Gives "FRONTEND_ORIGINS" text ∧ CutAt ',' text.toList pieces ∧
    ∃ piece ∈ pieces, trim (String.ofList piece) = "*"

theorem anyOrigin_mem_iff (loads : LoadsOrigins environment origins) :
    Http.anyOrigin ∈ origins ↔ NamesEveryone environment := by
  cases loads with
  | standard idle =>
      constructor
      · intro star
        exact absurd star (by decide)
      · rintro ⟨text, pieces, gives, -⟩
        exact absurd gives idle.not_gives
  | given gives cut =>
      rw [List.mem_filter, List.mem_map]
      constructor
      · rintro ⟨⟨piece, member, star⟩, -⟩
        exact ⟨_, _, gives, cut, piece, member, star⟩
      · rintro ⟨text, pieces, gives', cut', piece, member, star⟩
        obtain rfl := gives.unique gives'
        obtain rfl := (cutAt_iff.mp cut).symm.trans (cutAt_iff.mp cut')
        exact ⟨⟨piece, member, star⟩, by decide⟩

theorem LoadsDatabase.eq_memory (loads : LoadsDatabase environment database)
    (gives : environment.Gives "DATABASE_DRIVER" "memory") : database = .memory := by
  cases loads with
  | memory => rfl
  | postgres driver =>
      rcases driver with idle | other
      · exact absurd gives idle.not_gives
      · exact absurd (other.unique gives) (by decide)

theorem Loads.hasSecret (loads : Loads environment config) : config.token.HasSecret :=
  loads.secret.visible

theorem Loads.exists_instruments_iff (loads : Loads environment config) :
    (∃ instruments, Instruments.of config.token config.cost = .ok instruments) ↔
      config.token.expiryHours ≤ 8784 := by
  rw [loads.cost]
  exact Instruments.exists_of_standard_iff loads.hasSecret loads.positive

theorem Loads.instruments_of_overlong (loads : Loads environment config)
    (overlong : 8784 < config.token.expiryHours) :
    Instruments.of config.token config.cost =
      .error (unfitLifetime config.token.expiryHours) := by
  rw [loads.cost]
  apply Instruments.of_standard_of_not_inBounds loads.hasSecret
  intro inBounds
  exact absurd inBounds.2 (Int.not_le_of_gt overlong)

theorem WritesHours.unique {text : String} {hours others : Int} (writes : WritesHours text hours)
    (writes' : WritesHours text others) : hours = others := by
  have read := (readSigned_iff text hours).mpr writes
  rw [(readSigned_iff text others).mpr writes'] at read
  exact (Except.ok.inj read).symm

theorem Setting.hours_le_iff {hours : Int}
    (setting : Setting environment "JWT_EXPIRY_HOURS" WritesHours 24 hours) (positive : 0 < hours) :
    hours ≤ 8784 ↔
      Sound environment "JWT_EXPIRY_HOURS" fun text hours =>
        WritesHours text hours ∧ 0 < hours ∧ hours ≤ 8784 := by
  cases setting with
  | unset idle => exact iff_of_true (by decide) (.inl idle)
  | given gives writes =>
      constructor
      · intro short
        exact .inr ⟨_, hours, gives, writes, positive, short⟩
      · rintro (idle | ⟨text, value, gives', writes', -, short⟩)
        · exact absurd gives idle.not_gives
        · obtain rfl := gives.unique gives'
          rwa [writes.unique writes']

/-- An environment that says no more than is needed to keep users in memory, but for the origins and
the lifetime of tokens. -/
theorem loads_plain {secret : String} {hours : Int}
    (driver : environment.Gives "DATABASE_DRIVER" "memory")
    (gives : environment.Gives "JWT_SECRET" secret)
    (others : ∀ name ∈ ["HTTP_ADDR", "REQUEST_TIMEOUT_SECS", "DEFAULT_ADMIN_USERNAME",
      "DEFAULT_ADMIN_EMAIL", "DEFAULT_ADMIN_PASSWORD"], environment.bytes? name = none)
    (loads : LoadsOrigins environment origins)
    (expiry : Setting environment "JWT_EXPIRY_HOURS" WritesHours 24 hours) (positive : 0 < hours) :
    Loads environment
      ⟨.memory, .v4 [0, 0, 0, 0] 8080, 30, origins, ⟨secret, hours⟩, .standard, none⟩ where
  database := .memory driver
  address := .unset (.unset (others _ (by decide)))
  timeout := .unset (.unset (others _ (by decide)))
  origins := loads
  secret := gives
  expiry := expiry
  positive := positive
  cost := rfl
  admin := .none (.unset (others _ (by decide))) (.unset (others _ (by decide)))
    (.unset (others _ (by decide)))

end Settings

namespace Startup

variable {environment : Environment} {config : Config} {instruments : Instruments}
  {memory : Memory} {listen : Net.SocketAddress → Except String Unit} {supply : Supply}

/-! Steps of a start with users in memory. -/

theorem seedAdmin_some (hasher : Password.Hasher) (admin : DefaultAdmin) (memory : Memory) :
    seedAdmin hasher (some admin) memory =
      ((seedOn hasher admin memory).1.map fun _ => (), (seedOn hasher admin memory).2) := rfl

def Staffed (config : Config) : Prop := ∀ admin, config.admin = some admin → admin.Creatable

theorem seedAdmin_of_staffed (hasher : Password.Hasher) (supply : Supply)
    (staffed : Staffed config) :
    ∃ memory, seedAdmin hasher config.admin ⟨.empty, supply⟩ = (.ok (), memory) := by
  cases given : config.admin with
  | none => exact ⟨_, rfl⟩
  | some admin =>
      obtain ⟨id, created⟩ := seedOn_empty_of_creatable hasher supply (staffed admin given)
      rw [seedAdmin_some, created]
      exact ⟨_, rfl⟩

theorem seedAdmin_of_not_staffed (hasher : Password.Hasher) (supply : Supply)
    (refused : ¬ Staffed config) :
    ∃ failure memory, seedAdmin hasher config.admin ⟨.empty, supply⟩ = (.error failure, memory) := by
  unfold Staffed at refused
  push Not at refused
  obtain ⟨admin, given, refused⟩ := refused
  obtain ⟨reason, failed⟩ := seedOn_empty_of_not_creatable hasher supply refused
  rw [given, seedAdmin_some, failed]
  exact ⟨_, _, rfl⟩

theorem inMemory_of_seeded {seeded : Memory}
    (made : Instruments.of config.token config.cost = .ok instruments)
    (seeds : seedAdmin instruments.hasher config.admin memory = (.ok (), seeded)) :
    inMemory listen config memory = serveAt listen config instruments seeded := by
  rw [inMemory, made]
  dsimp only
  rw [seeds]

theorem inMemory_of_unseeded {failure : Failure} {left : Memory}
    (made : Instruments.of config.token config.cost = .ok instruments)
    (fails : seedAdmin instruments.hasher config.admin memory = (.error failure, left)) :
    inMemory listen config memory = .refused (.service failure) := by
  rw [inMemory, made]
  dsimp only
  rw [fails]

theorem inMemory_of_uninstrumented {failure : Failure}
    (refused : Instruments.of config.token config.cost = .error failure) :
    inMemory listen config memory = .refused (.service failure) := by
  rw [inMemory, refused]

/-! All ways in which such a start ends. -/

structure Ready (config : Config) : Prop where
  lifetime : config.token.expiryHours ≤ 8784
  staffed : Staffed config

inductive EndsInMemory (listen : Net.SocketAddress → Except String Unit)
    (environment : Environment) (config : Config) : Startup → Prop
  | unready (failure : Failure) (unready : ¬ Ready config) :
      EndsInMemory listen environment config (.refused (.service failure))
  | brokenOff (ready : Ready config) (everyone : NamesEveryone environment) :
      EndsInMemory listen environment config .brokenOff
  | unheard (reason : String) (ready : Ready config) (named : ¬ NamesEveryone environment)
      (refused : listen config.address = .error reason) :
      EndsInMemory listen environment config (.refused (.listening reason))
  | serving (server : Http.Server) (memory : Memory) (ready : Ready config)
      (named : ¬ NamesEveryone environment) (listens : listen config.address = .ok ())
      (origins : server.cors.origins = config.origins.filter Http.isHeaderValue) :
      EndsInMemory listen environment config (.serving server memory)

section Ends

variable {startup : Startup} (ends : EndsInMemory listen environment config startup)

include ends

theorem EndsInMemory.eq_brokenOff_iff :
    startup = .brokenOff ↔ Ready config ∧ NamesEveryone environment := by
  cases ends with
  | unready failure unready => simp [unready]
  | brokenOff ready everyone => simp [ready, everyone]
  | unheard reason ready named => simp [named]
  | serving server users ready named => simp [named]

theorem EndsInMemory.refused_or_serving (whole : startup ≠ .brokenOff) :
    (∃ error, startup = .refused error) ∨
      ∃ server users, startup = .serving server users ∧
        server.cors.origins = config.origins.filter Http.isHeaderValue := by
  cases ends with
  | unready failure => exact .inl ⟨_, rfl⟩
  | brokenOff => contradiction
  | unheard reason => exact .inl ⟨_, rfl⟩
  | serving server users ready named listens origins => exact .inr ⟨_, _, rfl, origins⟩

end Ends

theorem serveAt_ends (loads : Loads environment config) (ready : Ready config) :
    EndsInMemory listen environment config (serveAt listen config instruments memory) := by
  have everyone := anyOrigin_mem_iff loads.origins
  unfold serveAt
  by_cases star : Http.anyOrigin ∈ config.origins
  · rw [Http.Cors.of?_of_mem star]
    exact .brokenOff ready (everyone.mp star)
  · obtain ⟨cors, allowed, origins⟩ := Http.Cors.of?_of_not_mem star
    have named : ¬ NamesEveryone environment := mt everyone.mpr star
    rw [allowed]
    dsimp only
    cases listens : listen config.address with
    | error reason => exact .unheard reason ready named listens
    | ok => exact .serving _ _ ready named listens origins

theorem inMemory_ends (loads : Loads environment config) :
    EndsInMemory listen environment config (inMemory listen config ⟨.empty, supply⟩) := by
  -- Of the settings of the instruments only the lifetime is left to be refused.
  by_cases short : config.token.expiryHours ≤ 8784
  · obtain ⟨instruments, made⟩ := loads.exists_instruments_iff.mpr short
    by_cases staffed : Staffed config
    · obtain ⟨seeded, seeds⟩ := seedAdmin_of_staffed instruments.hasher supply staffed
      rw [inMemory_of_seeded made seeds]
      exact serveAt_ends loads ⟨short, staffed⟩
    · obtain ⟨failure, left, fails⟩ :=
        seedAdmin_of_not_staffed instruments.hasher supply staffed
      rw [inMemory_of_unseeded made fails]
      exact .unready failure fun ready => staffed ready.staffed
  · rw [inMemory_of_uninstrumented (loads.instruments_of_overlong (Int.lt_of_not_ge short))]
    exact .unready _ fun ready => short ready.lifetime

theorem start_of_refused {error : ConfigError} (refused : Config.read environment = .error error) :
    start listen environment supply = .refused (.configuration error) := by
  rw [start, refused]

theorem start_of_memory (loads : Loads environment config) (memory : config.database = .memory) :
    start listen environment supply = inMemory listen config ⟨.empty, supply⟩ := by
  rw [start, loads.read]
  dsimp only
  rw [memory]

theorem start_ends (loads : Loads environment config) (memory : config.database = .memory) :
    EndsInMemory listen environment config (start listen environment supply) := by
  rw [start_of_memory loads memory]
  exact inMemory_ends loads

theorem start_of_postgres {url : String} {maxConnections : Nat} (loads : Loads environment config)
    (server : config.database = .postgres url maxConnections) :
    start listen environment supply =
      onServer (standardTarget environment) url maxConnections := by
  rw [start, loads.read]
  dsimp only
  rw [server]

/-- The lifetime of tokens is checked twice, against different bounds. The configuration admits every
positive one, and the signer none beyond a leap year: of what the configuration admits, just the
longer ones are refused when the service is made. That is not before a database server has been
connected to, if there is one, and the start until then is the same whatever the lifetime. -/
theorem overlong_lifetimes_are_refused_late (environment : Environment) :
    ((∃ config instruments, Config.read environment = .ok config ∧
        Instruments.of config.token config.cost = .ok instruments) ↔
      Acceptable environment ∧
        Sound environment "JWT_EXPIRY_HOURS" fun text hours =>
          WritesHours text hours ∧ 0 < hours ∧ hours ≤ 8784) ∧
    ∀ config, Config.read environment = .ok config →
      ((∃ instruments, Instruments.of config.token config.cost = .ok instruments) ↔
        config.token.expiryHours ≤ 8784) ∧
      (8784 < config.token.expiryHours → Instruments.of config.token config.cost =
        .error (unfitLifetime config.token.expiryHours)) ∧
      ∀ url maxConnections, config.database = .postgres url maxConnections →
        ∀ listen supply, start listen environment supply =
          onServer (standardTarget environment) url maxConnections := by
  simp only [read_eq_ok_iff]
  refine ⟨⟨?_, ?_⟩, ?_⟩
  · rintro ⟨config, instruments, loads, made⟩
    have short := loads.exists_instruments_iff.mp ⟨instruments, made⟩
    exact ⟨loads.acceptable, (loads.expiry.hours_le_iff loads.positive).mp short⟩
  · rintro ⟨acceptable, sound⟩
    obtain ⟨config, loads⟩ := acceptable.loads
    have short := (loads.expiry.hours_le_iff loads.positive).mpr sound
    obtain ⟨instruments, made⟩ := loads.exists_instruments_iff.mpr short
    exact ⟨config, instruments, loads, made⟩
  · intro config loads
    exact ⟨loads.exists_instruments_iff, loads.instruments_of_overlong,
      fun _ _ server _ _ => start_of_postgres loads server⟩

/-- A lifetime that is an hour longer than a leap year is configured and then refused. -/
theorem overlong_lifetime_is_configured :
    let environment : Environment := ⟨[("DATABASE_DRIVER", utf8 "memory"),
      ("JWT_SECRET", utf8 "s3cret"), ("JWT_EXPIRY_HOURS", utf8 "8785")]⟩
    let config : Config := ⟨.memory, .v4 [0, 0, 0, 0] 8080, 30,
      ["http://localhost:3000", "http://127.0.0.1:3000"], ⟨"s3cret", 8785⟩, .standard, none⟩
    Config.read environment = .ok config ∧
      Instruments.of config.token config.cost = .error (.configuration
        "token expiry must be a positive number of hours (got 8785)") ∧
      ¬ ∀ environment config, Config.read environment = .ok config →
        ∃ instruments, Instruments.of config.token config.cost = .ok instruments := by
  intro environment config
  have trimmed : trim "8785" = "8785" := by decide +kernel
  have digits : WritesNumber ['8', '7', '8', '5'] 8785 := ⟨by decide, by simp, by decide⟩
  have writes : WritesHours (trim "8785") 8785 := by
    rw [trimmed]
    exact ⟨.inl ⟨8785, .inl digits, rfl⟩, by decide, by decide⟩
  have loads : Loads environment config :=
    loads_plain ⟨rfl, 'm', by decide, by decide⟩ ⟨rfl, 's', by decide, by decide⟩ (by decide)
      (.standard (.unset rfl)) (.given ⟨rfl, '8', by decide, by decide⟩ writes) (by decide)
  have refused := loads.instruments_of_overlong (by decide)
  have told : unfitLifetime 8785 =
      .configuration "token expiry must be a positive number of hours (got 8785)" := by
    decide +kernel
  refine ⟨loads.read, refused.trans (congrArg Except.error told), ?_⟩
  intro accepted
  obtain ⟨instruments, made⟩ := accepted environment config loads.read
  rw [refused] at made
  contradiction

/-- With users in memory a start breaks off just where all would be well but for an origin that
stands for every origin: it is in the configuration, and no list of origins may hold it. Any other
start is refused for a reason, or serves the origins that can be header values. -/
theorem start_breaks_off_at_a_star (listen : Net.SocketAddress → Except String Unit)
    {environment : Environment} (supply : Supply)
    (memory : environment.Gives "DATABASE_DRIVER" "memory") :
    (start listen environment supply = .brokenOff ↔
      (∃ config, Loads environment config ∧ Ready config) ∧ NamesEveryone environment) ∧
    (start listen environment supply ≠ .brokenOff →
      (∃ error, start listen environment supply = .refused error) ∨
      ∃ server users config, start listen environment supply = .serving server users ∧
        Loads environment config ∧
        server.cors.origins = config.origins.filter Http.isHeaderValue) := by
  cases loaded : Config.read environment with
  | error error =>
      have none : ¬ ∃ config, Loads environment config ∧ Ready config := by
        rintro ⟨config, loads, -⟩
        rw [loads.read] at loaded
        contradiction
      rw [start_of_refused loaded]
      simp [none]
  | ok config =>
      have loads := read_eq_ok_iff.mp loaded
      -- No other configuration is described by the environment.
      have only : (∃ config, Loads environment config ∧ Ready config) ↔ Ready config := by
        constructor
        · rintro ⟨other, loads', ready⟩
          rwa [← Except.ok.inj (loads'.read.symm.trans loaded)]
        · exact fun ready => ⟨config, loads, ready⟩
      have ends : EndsInMemory listen environment config (start listen environment supply) :=
        start_ends loads (loads.database.eq_memory memory)
      refine ⟨ends.eq_brokenOff_iff.trans (and_congr_left' only.symm), ?_⟩
      intro whole
      refine (ends.refused_or_serving whole).imp_right ?_
      rintro ⟨server, users, serving, origins⟩
      exact ⟨server, users, config, serving, loads, origins⟩

/-- One of two origins stands for every origin. -/
theorem start_breaks_off_at_a_star_among_others :
    let environment : Environment := ⟨[("DATABASE_DRIVER", utf8 "memory"),
      ("JWT_SECRET", utf8 "s3cret"), ("FRONTEND_ORIGINS", utf8 "http://a,\t* ")]⟩
    environment.Gives "DATABASE_DRIVER" "memory" ∧ NamesEveryone environment ∧
      start (fun _ => .ok ()) environment countingSupply = .brokenOff := by
  intro environment
  have memory : environment.Gives "DATABASE_DRIVER" "memory" := ⟨rfl, 'm', by decide, by decide⟩
  have origins : LoadsOrigins environment ["http://a", "*"] := origins_iff.mp (by decide +kernel)
  have everyone := (anyOrigin_mem_iff origins).mp (by decide)
  have loads := loads_plain memory ⟨rfl, 's', by decide, by decide⟩ (by decide) origins
    (.unset (.unset rfl)) (by decide)
  have ready : Ready ⟨.memory, .v4 [0, 0, 0, 0] 8080, 30, ["http://a", "*"], ⟨"s3cret", 24⟩,
      .standard, none⟩ := ⟨by decide, nofun⟩
  obtain ⟨breaks, -⟩ := start_breaks_off_at_a_star (fun _ => .ok ()) countingSupply memory
  exact ⟨memory, everyone, breaks.mpr ⟨⟨_, loads, ready⟩, everyone⟩⟩

/-- With a star for the origins the start neither serves nor tells what is wrong. -/
theorem star_is_no_origin :
    let environment : Environment := ⟨[("DATABASE_DRIVER", utf8 "memory"),
      ("JWT_SECRET", utf8 "s3cret"), ("FRONTEND_ORIGINS", utf8 "*")]⟩
    (∀ listen supply, start listen environment supply = .brokenOff) ∧
      ¬ ∀ listen environment supply, environment.Gives "DATABASE_DRIVER" "memory" →
        (∃ error, start listen environment supply = .refused error) ∨
        ∃ server users, start listen environment supply = .serving server users := by
  intro environment
  have memory : environment.Gives "DATABASE_DRIVER" "memory" := ⟨rfl, 'm', by decide, by decide⟩
  have origins : LoadsOrigins environment ["*"] := origins_iff.mp (by decide +kernel)
  have everyone := (anyOrigin_mem_iff origins).mp (by decide)
  have loads := loads_plain memory ⟨rfl, 's', by decide, by decide⟩ (by decide) origins
    (.unset (.unset rfl)) (by decide)
  have breaks (listen : Net.SocketAddress → Except String Unit) (supply : Supply) :
      start listen environment supply = .brokenOff :=
    (start_ends loads rfl).eq_brokenOff_iff.mpr ⟨⟨by decide, nofun⟩, everyone⟩
  refine ⟨breaks, ?_⟩
  intro accepted
  rcases accepted (fun _ => .ok ()) environment countingSupply memory with
    ⟨error, refused⟩ | ⟨server, users, serving⟩
  · rw [breaks] at refused
    contradiction
  · rw [breaks] at serving
    contradiction

end Startup

end Accounts
