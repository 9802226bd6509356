import Accounts.Proofs.Pool
import Accounts.Proofs.Service.Register
import Accounts.Proofs.Store.Representation

/-! Registrations that run at the same time on one store in memory. The early searches decide
nothing: between a search and the creation of the user anyone else may take the name. -/

namespace Accounts.Service

open Store

/-- What no two users have in common. -/
inductive Mark
  | username
  | email

namespace Mark

def ofUser : Mark → User → String
  | .username, user => user.username.text
  | .email, user => user.email.text

def ofInput : Mark → Registration → String
  | .username, input => input.username
  | .email, input => Email.normalize input.email

def taken : Mark → Failure
  | .username => .usernameTaken
  | .email => .emailTaken

theorem taken_injective {mark other : Mark} (same : mark.taken = other.taken) : mark = other := by
  cases mark with
  | username =>
      cases other with
      | username => rfl
      | email => contradiction
  | email =>
      cases other with
      | username => contradiction
      | email => rfl

end Mark

def Unique (table : Table) : Prop := ∀ mark : Mark, (table.users.map mark.ofUser).Nodup

theorem users_append (table : Table) (entries : List (Uuid × User)) :
    (⟨table.entries ++ entries⟩ : Table).users = table.users ++ entries.map Prod.snd := by
  simp [Table.users]

theorem Unique.append {table : Table} (unique : Unique table) {key : Uuid} {user : User}
    (free : table.checkUnique user.username.text user.email.text none = .ok ()) :
    Unique ⟨table.entries ++ [(key, user)]⟩ := by
  have apart : ∀ mark : Mark, ∀ other ∈ table.users, mark.ofUser other ≠ mark.ofUser user := by
    intro mark other member
    have different := Table.checkUnique_eq_ok.mp free other (Table.mem_others.mpr ⟨member, nofun⟩)
    cases mark with
    | username => exact different.1
    | email => exact different.2
  intro mark
  rw [users_append, List.map_append, List.nodup_append]
  refine ⟨unique mark, List.nodup_singleton _, ?_⟩
  intro first first_member second second_member
  obtain ⟨other, member, rfl⟩ := List.mem_map.mp first_member
  rw [List.map_singleton, List.map_singleton, List.mem_singleton] at second_member
  rw [second_member]
  exact apart mark other member

variable {signer : Token.Signer} {input : Registration}

def Registration.Valid (input : Registration) : Prop :=
  (readNames input.username input.email).isOk ∧ (readPassword input.password).isOk

instance (input : Registration) : Decidable input.Valid := inferInstanceAs (Decidable (_ ∧ _))

structure RowOf (input : Registration) (user : User) : Prop where
  marks : ∀ mark : Mark, mark.ofUser user = mark.ofInput input
  role : user.role = .user
  live : user.deletedAt = none

/-- Whether chance and the clock favour a request: the identifier that a creation generates is not
a key yet, and a token can be issued at the time that is told. -/
def Request.Favoured (signer : Token.Signer) : Request → Memory → Prop
  | .create new, memory => (Operation.create new).IdNew memory
  | .now, memory => (memory.supply.next.1.now.later? signer.expirySeconds).isSome
  | _, _ => True

instance (signer : Token.Signer) : (request : Request) → (memory : Memory) →
    Decidable (request.Favoured signer memory)
  | .create _, _ => inferInstanceAs (Decidable (_ → _))
  | .now, _ => inferInstanceAs (Decidable (_ = true))
  | .perform _, _ => .isTrue trivial
  | .hash _, _ => .isTrue trivial
  | .verify _ _, _ => .isTrue trivial

/-- How far a registration has come, given the table as it is now and the row that the registration
has added to it, if it has. -/
inductive Stage (signer : Token.Signer) (input : Registration) (table : Table) :
    Option User → UseCase (Except Failure Session) → Prop
  | invalid {reason : String} (wrong : ¬ input.Valid) :
      Stage signer input table none (.done (.error (.validation reason)))
  | taken (mark : Mark) {row : User} (member : row ∈ table.users)
      (same : mark.ofUser row = mark.ofInput input) :
      Stage signer input table none (.done (.error mark.taken))
  | searchingUsername {names : UserName × Email}
      (read : readNames input.username input.email = .ok names) :
      Stage signer input table none
        (.ask (.perform (.findByUsername names.1.text))
          (afterUsername signer names input.password))
  | searchingEmail {names : UserName × Email}
      (read : readNames input.username input.email = .ok names) :
      Stage signer input table none
        (.ask (.perform (.findByEmail names.2.text)) (afterEmail signer names input.password))
  | hashing {names : UserName × Email} {password : Password.ClearText}
      (read : readNames input.username input.email = .ok names) :
      Stage signer input table none (.ask (.hash password) (afterHash signer names))
  | creating {names : UserName × Email} {password : Password.Hashed}
      (read : readNames input.username input.email = .ok names) :
      Stage signer input table none
        (.ask (.create { username := names.1, email := names.2, password, role := .user })
          (afterCreate signer))
  | issuing {user : User} :
      Stage signer input table (some user) (.ask .now (afterNow signer user))
  | registered {user : User} {token : String} :
      Stage signer input table (some user) (.done (.ok { token, user := user.view }))

theorem Stage.start (signer : Token.Signer) (input : Registration) (table : Table) :
    Stage signer input table none (register signer input) := by
  rw [register_eq]
  cases read : readNames input.username input.email with
  | error failure =>
      obtain ⟨reason, rfl⟩ := readNames_error read
      refine .invalid ?_
      rw [Registration.Valid, read]
      exact fun valid => Bool.false_ne_true valid.1
  | ok names => exact .searchingUsername read

/-- What others add to the table takes nothing away from what a registration has found in it. -/
theorem Stage.mono {table later : Table} (kept : ∀ row ∈ table.users, row ∈ later.users)
    {row : Option User} {program : UseCase (Except Failure Session)}
    (stage : Stage signer input table row program) : Stage signer input later row program := by
  cases stage with
  | invalid wrong => exact .invalid wrong
  | taken mark member same => exact .taken mark (kept _ member) same
  | searchingUsername read => exact .searchingUsername read
  | searchingEmail read => exact .searchingEmail read
  | hashing read => exact .hashing read
  | creating read => exact .creating read
  | issuing => exact .issuing
  | registered => exact .registered

theorem ensureAbsent_find (table : Table) (predicate : User → Bool) (taken : Failure) :
    (∃ row ∈ table.users, predicate row = true ∧
      ensureAbsent (table.find predicate) taken = .error taken) ∨
    ensureAbsent (table.find predicate) taken = .ok () := by
  rcases table.find_cases predicate with ⟨row, member, -, holds, found⟩ | ⟨-, absent⟩
  · rw [found]
    exact .inl ⟨row, member, holds, rfl⟩
  · rw [absent]
    exact .inr rfl

theorem Stage.searchedUsername {table : Table} {names : UserName × Email}
    (read : readNames input.username input.email = .ok names) :
    Stage signer input table none (afterUsername signer names input.password
      (table.find fun user => user.username.text == names.1.text)) := by
  unfold afterUsername
  rcases ensureAbsent_find table (fun user => user.username.text == names.1.text)
    .usernameTaken with ⟨taken, member, same, refused⟩ | free
  · rw [refused]
    have name := (readNames_texts read).1
    exact .taken .username member ((beq_iff_eq.mp same).trans name)
  · rw [free]
    exact .searchingEmail read

theorem Stage.searchedEmail {table : Table} {names : UserName × Email}
    (read : readNames input.username input.email = .ok names) :
    Stage signer input table none (afterEmail signer names input.password
      (table.find fun user => user.email.text == Email.normalize names.2.text)) := by
  unfold afterEmail
  rcases ensureAbsent_find table (fun user => user.email.text == Email.normalize names.2.text)
    .emailTaken with ⟨taken, member, same, refused⟩ | free
  · -- the search normalizes once more what has been normalized
    rw [refused]
    obtain ⟨-, address, again⟩ := readNames_texts read
    rw [again] at same
    exact .taken .email member ((beq_iff_eq.mp same).trans address)
  · rw [free]
    cases password_read : readPassword input.password with
    | error failure =>
        obtain ⟨reason, rfl⟩ := readPassword_error password_read
        refine .invalid ?_
        rw [Registration.Valid, password_read]
        exact fun valid => Bool.false_ne_true valid.2
    | ok password => exact .hashing read

theorem rowOf_createdRow {names : UserName × Email}
    (read : readNames input.username input.email = .ok names) (fresh : Fresh)
    (password : Password.Hashed) :
    RowOf input (createdRow fresh
      { username := names.1, email := names.2, password, role := .user }) := by
  obtain ⟨name, address, -⟩ := readNames_texts read
  refine ⟨?_, rfl, rfl⟩
  intro mark
  cases mark with
  | username => exact name
  | email => exact address

theorem Stage.refusedCreate {table : Table} {names : UserName × Email}
    (read : readNames input.username input.email = .ok names) {failure : Failure}
    (refused : table.checkUnique names.1.text names.2.text none = .error failure) :
    Stage signer input table none (afterCreate signer (.error failure)) := by
  obtain ⟨name, address, -⟩ := readNames_texts read
  rcases Table.checkUnique_error refused with
    ⟨rfl, taken, member, same⟩ | ⟨rfl, taken, member, same⟩
  · exact .taken .username member (same.trans name)
  · exact .taken .email member (same.trans address)

theorem Stage.issued {table : Table} {user : User} {now : Time.Instant}
    (inRange : (now.later? signer.expirySeconds).isSome) :
    Stage signer input table (some user) (afterNow signer user now) := by
  obtain ⟨expiry, later⟩ := Option.isSome_iff_exists.mp inRange
  rw [afterNow, Token.Signer.issue, later]
  exact .registered

/-- What a request of a registration does: it leaves the table as it is, or it adds the row of the
registration behind all others. -/
theorem Stage.step (hasher : Password.Hasher) {memory : Memory} {row : Option User}
    {request : Request} {next : request.Reply → UseCase (Except Failure Session)}
    (stage : Stage signer input memory.table row (.ask request next))
    (favoured : request.Favoured signer memory) :
    (((Backend.ofMemory hasher).answer request memory).2.table = memory.table ∧
      Stage signer input memory.table row
        (next ((Backend.ofMemory hasher).answer request memory).1)) ∨
    (row = none ∧ ∃ user, RowOf input user ∧
      memory.table.checkUnique user.username.text user.email.text none = .ok () ∧
      ((Backend.ofMemory hasher).answer request memory).2.table =
        ⟨memory.table.entries ++ [(user.id, user)]⟩ ∧
      ∀ table, Stage signer input table (some user)
        (next ((Backend.ofMemory hasher).answer request memory).1)) := by
  cases stage with
  | searchingUsername read => exact .inl ⟨rfl, Stage.searchedUsername read⟩
  | searchingEmail read => exact .inl ⟨rfl, Stage.searchedEmail read⟩
  | hashing read => exact .inl ⟨rfl, .creating read⟩
  | @creating names password read =>
      rcases Table.create_cases memory.table memory.supply.next.1
        { username := names.1, email := names.2, password, role := .user } with
        ⟨failure, refused, created⟩ | ⟨free, created⟩
      · rw [Backend.answer_create, created]
        exact .inl ⟨rfl, Stage.refusedCreate read refused⟩
      · have idNew : memory.table.get? memory.supply.next.1.id = none := by
          apply favoured
          rw [created]
          rfl
        rw [Backend.answer_create, created]
        refine .inr ⟨rfl, _, rowOf_createdRow read memory.supply.next.1 password, free, ?_,
          fun table => .issuing⟩
        exact congrArg Table.mk (Table.put_of_none _ idNew)
  | issuing => exact .inl ⟨rfl, Stage.issued favoured⟩

/-! All registrations together. -/

abbrev Registrations (n : Nat) : Type :=
  Pool (Fin n) Memory Request Request.Reply (Except Failure Session)

namespace Registrations

variable {n : Nat} {inputs : Fin n → Registration} {start : Table} {added : List (Fin n × User)}
  {pool : Registrations n}

def of (signer : Token.Signer) (inputs : Fin n → Registration) (memory : Memory) :
    Registrations n where
  state := memory
  programs := fun client => register signer (inputs client)

def Returned (pool : Registrations n) (client : Fin n) (result : Except Failure Session) : Prop :=
  pool.programs client = .done result

/-- Whether the registrations have added some rows to a table, each of them one at most, and
nothing else has become of the table. -/
structure Progress (signer : Token.Signer) (inputs : Fin n → Registration) (start : Table)
    (added : List (Fin n × User)) (pool : Registrations n) : Prop where
  entries : pool.state.table.entries =
    start.entries ++ added.map fun entry => (entry.2.id, entry.2)
  unique : Unique pool.state.table
  clients : (added.map Prod.fst).Nodup
  rows : ∀ entry ∈ added, RowOf (inputs entry.1) entry.2
  stages : ∀ client, ∃ row, Stage signer (inputs client) pool.state.table row
    (pool.programs client) ∧ ∀ user, row = some user ↔ (client, user) ∈ added

theorem progress_start {memory : Memory} (unique : Unique memory.table) :
    Progress signer inputs memory.table [] (Registrations.of signer inputs memory) := by
  refine ⟨(List.append_nil _).symm, unique, List.nodup_nil, ?_, ?_⟩
  · intro entry member
    contradiction
  · intro client
    refine ⟨none, Stage.start signer (inputs client) memory.table, ?_⟩
    intro user
    simp

theorem Progress.stay (progress : Progress signer inputs start added pool) {later : Registrations n}
    {client : Fin n} {row : Option User} (same : later.state.table = pool.state.table)
    (others : ∀ other, other ≠ client → later.programs other = pool.programs other)
    (stage : Stage signer (inputs client) pool.state.table row (later.programs client))
    (own : ∀ user, row = some user ↔ (client, user) ∈ added) :
    Progress signer inputs start added later := by
  refine ⟨?_, ?_, progress.clients, progress.rows, ?_⟩
  · rw [same]
    exact progress.entries
  · rw [same]
    exact progress.unique
  · intro other
    rw [same]
    by_cases equal : other = client
    · subst equal
      exact ⟨row, stage, own⟩
    · rw [others other equal]
      exact progress.stages other

theorem Progress.extend (progress : Progress signer inputs start added pool)
    {later : Registrations n} {client : Fin n} {user : User}
    (appended : later.state.table = ⟨pool.state.table.entries ++ [(user.id, user)]⟩)
    (others : ∀ other, other ≠ client → later.programs other = pool.programs other)
    (stage : Stage signer (inputs client) later.state.table (some user) (later.programs client))
    (notYet : ∀ user, (client, user) ∉ added) (rowOf : RowOf (inputs client) user)
    (free : pool.state.table.checkUnique user.username.text user.email.text none = .ok ()) :
    Progress signer inputs start (added ++ [(client, user)]) later := by
  refine ⟨?_, ?_, ?_, ?_, ?_⟩
  · rw [appended, progress.entries]
    simp
  · rw [appended]
    exact progress.unique.append free
  · rw [List.map_append, List.nodup_append]
    refine ⟨progress.clients, List.nodup_singleton _, ?_⟩
    intro first member second second_member
    obtain ⟨⟨other, row⟩, entry_member, rfl⟩ := List.mem_map.mp member
    rw [List.map_singleton, List.mem_singleton] at second_member
    rw [second_member]
    intro equal
    obtain rfl : other = client := equal
    exact notYet row entry_member
  · intro entry member
    rcases List.mem_append.mp member with member | member
    · exact progress.rows entry member
    · rw [List.mem_singleton.mp member]
      exact rowOf
  · intro other
    by_cases equal : other = client
    · subst equal
      refine ⟨some user, stage, ?_⟩
      intro user'
      simp [notYet, eq_comm]
    · obtain ⟨row, stage, own⟩ := progress.stages other
      rw [others other equal, appended]
      refine ⟨row, stage.mono ?_, ?_⟩
      · intro row member
        rw [users_append]
        exact List.mem_append_left _ member
      · intro user'
        simp [own, equal]

theorem Progress.turn (hasher : Password.Hasher)
    (progress : Progress signer inputs start added pool) {client : Fin n} {request : Request}
    {next : request.Reply → UseCase (Except Failure Session)}
    (asked : pool.programs client = .ask request next)
    (favoured : request.Favoured signer pool.state) :
    ∃ added, Progress signer inputs start added
      (pool.turn (Backend.ofMemory hasher).answer client) := by
  obtain ⟨row, stage, own⟩ := progress.stages client
  rw [asked] at stage
  have others : ∀ other, other ≠ client →
      (pool.turn (Backend.ofMemory hasher).answer client).programs other = pool.programs other :=
    fun other => Pool.programs_turn_of_ne pool
  rcases stage.step hasher favoured with
    ⟨same, stage⟩ | ⟨rfl, user, rowOf, free, appended, stage⟩
  · rw [← Pool.state_turn asked] at same
    rw [← Pool.programs_turn_self asked] at stage
    exact ⟨added, progress.stay same others stage own⟩
  · have notYet : ∀ user, (client, user) ∉ added := by
      intro user member
      exact nomatch (own user).mpr member
    have created := stage (pool.turn (Backend.ofMemory hasher).answer client).state.table
    rw [← Pool.state_turn asked] at appended
    rw [← Pool.programs_turn_self asked] at created
    exact ⟨_, progress.extend appended others created notYet rowOf free⟩

theorem progress_run (hasher : Password.Hasher) {memory : Memory}
    (unique : Unique memory.table) {schedule : List (Fin n)}
    (favoured : (Registrations.of signer inputs memory).Along (Backend.ofMemory hasher).answer
      (Request.Favoured signer) schedule) :
    ∃ added, Progress signer inputs memory.table added
      ((Registrations.of signer inputs memory).run (Backend.ofMemory hasher).answer schedule) := by
  have step : ∀ (pool : Registrations n) client request next,
      pool.programs client = .ask request next → request.Favoured signer pool.state →
      (∃ added, Progress signer inputs memory.table added pool) →
      ∃ added, Progress signer inputs memory.table added
        (pool.turn (Backend.ofMemory hasher).answer client) := by
    rintro pool client request next asked favoured ⟨added, progress⟩
    exact progress.turn hasher asked favoured
  exact Pool.invariant_run step favoured ⟨[], progress_start unique⟩

/-! What the results tell. -/

theorem Progress.of_ok (progress : Progress signer inputs start added pool) {client : Fin n}
    {session : Session} (returned : pool.Returned client (.ok session)) :
    ∃ user, (client, user) ∈ added ∧ session.user = user.view := by
  obtain ⟨row, stage, own⟩ := progress.stages client
  rw [returned] at stage
  cases stage with
  | @registered user token => exact ⟨user, (own user).mp rfl, rfl⟩

theorem Progress.of_error (progress : Progress signer inputs start added pool) {client : Fin n}
    {failure : Failure} (returned : pool.Returned client (.error failure)) :
    (∀ user, (client, user) ∉ added) ∧
    ((¬ (inputs client).Valid ∧ ∃ reason, failure = .validation reason) ∨
      ∃ mark : Mark, failure = mark.taken ∧
        ∃ row ∈ pool.state.table.users, mark.ofUser row = mark.ofInput (inputs client)) := by
  obtain ⟨row, stage, own⟩ := progress.stages client
  rw [returned] at stage
  cases stage with
  | @invalid reason wrong =>
      refine ⟨?_, .inl ⟨wrong, reason, rfl⟩⟩
      intro user member
      exact nomatch (own user).mpr member
  | @taken mark row member same =>
      refine ⟨?_, .inr ⟨mark, rfl, row, member, same⟩⟩
      intro user member
      exact nomatch (own user).mpr member

/-- Different registrations have added rows that differ in every mark. -/
theorem Progress.apart (progress : Progress signer inputs start added pool) (mark : Mark)
    {entry other : Fin n × User} (member : entry ∈ added) (other_member : other ∈ added)
    (same : mark.ofUser entry.2 = mark.ofUser other.2) : entry = other := by
  have nodup := progress.unique mark
  rw [Table.users, progress.entries, List.map_append, List.map_append, List.nodup_append] at nodup
  have distinct : (added.map fun entry => mark.ofUser entry.2).Nodup := by
    simpa [Function.comp_def] using nodup.2.1
  exact List.inj_on_of_nodup_map distinct member other_member same

theorem Progress.added_of_taken (progress : Progress signer inputs start added pool)
    {mark : Mark} {text : String} (free : ∀ row ∈ start.users, mark.ofUser row ≠ text)
    (taken : ∃ row ∈ pool.state.table.users, mark.ofUser row = text) :
    ∃ entry ∈ added, mark.ofInput (inputs entry.1) = text := by
  obtain ⟨row, member, same⟩ := taken
  rw [Table.users, progress.entries, List.map_append, List.mem_append, List.map_map] at member
  rcases member with before | since
  · exact absurd same (free row before)
  · obtain ⟨entry, entry_member, rfl⟩ := List.mem_map.mp since
    refine ⟨entry, entry_member, ?_⟩
    rw [← (progress.rows entry entry_member).marks mark]
    exact same

structure Sound (inputs : Fin n → Registration) (start : Table) (pool : Registrations n) :
    Prop where
  /-- Each registration that ended well has added one row, the one it asked for; a refused one has
  added none; the rows from before are untouched. -/
  added : ∃ added : List (Fin n × User),
    pool.state.table.entries =
      start.entries ++ added.map (fun entry => (entry.2.id, entry.2)) ∧
    (added.map Prod.fst).Nodup ∧
    (∀ entry ∈ added, RowOf (inputs entry.1) entry.2) ∧
    (∀ client session, pool.Returned client (.ok session) →
      ∃ user, (client, user) ∈ added ∧ session.user = user.view) ∧
    (∀ client failure, pool.Returned client (.error failure) → ∀ user, (client, user) ∉ added)
  /-- No two of those that ended well have given out one name or one address. -/
  distinct : ∀ client other session session', client ≠ other →
    pool.Returned client (.ok session) → pool.Returned other (.ok session') →
    session.user.username.text ≠ session'.user.username.text ∧
    session.user.email.text ≠ session'.user.email.text
  /-- What is refused as taken is there in the table. -/
  taken : ∀ client (mark : Mark), pool.Returned client (.error mark.taken) →
    ∃ row ∈ pool.state.table.users, mark.ofUser row = mark.ofInput (inputs client)

theorem Progress.sound (progress : Progress signer inputs start added pool) :
    pool.Sound inputs start where
  added := by
    refine ⟨added, progress.entries, progress.clients, progress.rows, ?_, ?_⟩
    · intro client session returned
      exact progress.of_ok returned
    · intro client failure returned
      exact (progress.of_error returned).1
  distinct := by
    intro client other session session' different returned returned'
    obtain ⟨user, member, view⟩ := progress.of_ok returned
    obtain ⟨user', member', view'⟩ := progress.of_ok returned'
    rw [view, view']
    have apart : ∀ mark : Mark, mark.ofUser user ≠ mark.ofUser user' := by
      intro mark same
      exact different (congrArg Prod.fst (progress.apart mark member member' same))
    exact ⟨apart .username, apart .email⟩
  taken := by
    intro client mark returned
    rcases (progress.of_error returned).2 with ⟨-, reason, wrong⟩ | ⟨other, same, held⟩
    · cases mark with
      | username => contradiction
      | email => contradiction
    · rw [Mark.taken_injective same]
      exact held

structure Contest (inputs : Fin n → Registration) (start : Table) (common : Mark) : Prop where
  valid : ∀ client, (inputs client).Valid
  free : ∀ client, ∀ mark : Mark, ∀ row ∈ start.users,
    mark.ofUser row ≠ mark.ofInput (inputs client)
  shared : ∀ client other, common.ofInput (inputs client) = common.ofInput (inputs other)
  distinct : ∀ mark : Mark, mark ≠ common → ∀ client other, client ≠ other →
    mark.ofInput (inputs client) ≠ mark.ofInput (inputs other)

def OneWinner (pool : Registrations n) (refusal : Failure) : Prop :=
  ∃ winner, (∃ session, pool.Returned winner (.ok session)) ∧
    ∀ client, client ≠ winner → pool.Returned client (.error refusal)

theorem Progress.oneWinner (progress : Progress signer inputs start added pool) (nonempty : 0 < n)
    {common : Mark} (contest : Contest inputs start common)
    (ended : ∀ client, ∃ result, pool.Returned client result) :
    pool.OneWinner common.taken := by
  -- whoever is refused is refused for the common mark, which somebody has taken
  have refused : ∀ client failure, pool.Returned client (.error failure) →
      failure = common.taken ∧ ∃ entry, entry ∈ added := by
    intro client failure returned
    obtain ⟨nothing, wrong | ⟨mark, rfl, held⟩⟩ := progress.of_error returned
    · exact absurd (contest.valid client) wrong.1
    · obtain ⟨entry, member, same⟩ := progress.added_of_taken (contest.free client mark) held
      by_cases equal : mark = common
      · exact ⟨congrArg Mark.taken equal, entry, member⟩
      · have different : entry.1 ≠ client := by
          intro own
          rw [← own] at nothing
          exact nothing entry.2 member
        exact absurd same (contest.distinct mark equal entry.1 client different)
  have single : ∀ entry ∈ added, ∀ other ∈ added, entry = other := by
    intro entry member other other_member
    apply progress.apart common member other_member
    rw [(progress.rows entry member).marks, (progress.rows other other_member).marks]
    exact contest.shared entry.1 other.1
  obtain ⟨winner, user, won⟩ : ∃ client user, (client, user) ∈ added := by
    obtain ⟨result, returned⟩ := ended ⟨0, nonempty⟩
    cases result with
    | error failure =>
        obtain ⟨-, entry, member⟩ := refused _ failure returned
        exact ⟨entry.1, entry.2, member⟩
    | ok session =>
        obtain ⟨user, member, -⟩ := progress.of_ok returned
        exact ⟨_, user, member⟩
  refine ⟨winner, ?_, ?_⟩
  · obtain ⟨result, returned⟩ := ended winner
    cases result with
    | error failure => exact absurd won ((progress.of_error returned).1 user)
    | ok session => exact ⟨session, returned⟩
  · intro client different
    obtain ⟨result, returned⟩ := ended client
    cases result with
    | error failure =>
        rw [← (refused client failure returned).1]
        exact returned
    | ok session =>
        obtain ⟨user', member, -⟩ := progress.of_ok returned
        exact absurd (congrArg Prod.fst (single _ member _ won)) different

/-- Registrations that take turns in any order give out each name and each address once and add
what they have given out, and only that, to the table. Each ends within five turns of its own. If
they differ in nothing but one mark, and no row has any of their marks yet, then one of them gets
it and the others are told that it is taken. What holds after every schedule holds at the moment
at which a registration returns. -/
theorem registrations_sound (hasher : Password.Hasher) {memory : Memory}
    (unique : Unique memory.table) (schedule : List (Fin n))
    (favoured : (Registrations.of signer inputs memory).Along (Backend.ofMemory hasher).answer
      (Request.Favoured signer) schedule) :
    let pool :=
      (Registrations.of signer inputs memory).run (Backend.ofMemory hasher).answer schedule
    Sound inputs memory.table pool ∧
    (∀ client, 5 ≤ schedule.count client → ∃ result, Returned pool client result) ∧
    (∀ common, Contest inputs memory.table common → 0 < n →
      (∀ client, ∃ result, Returned pool client result) → OneWinner pool common.taken) := by
  intro pool
  obtain ⟨added, progress⟩ := progress_run hasher unique favoured
  refine ⟨progress.sound, ?_, ?_⟩
  · intro client turns
    exact Pool.ends_of_within (register_within signer (inputs client)) turns
  · intro common contest nonempty ended
    exact progress.oneWinner nonempty contest ended

def namesakes : Fin 2 → Registration
  | 0 => ⟨"bob", "bob1@x.io", "secret1"⟩
  | 1 => ⟨"bob", "bob2@x.io", "secret1"⟩

/-- Two people ask for one name in five rounds, so that both have searched for it before either of
them has it. -/
theorem registrations_sound_namesakes :
    let signer : Token.Signer := ⟨"key", 1, by decide +kernel, by decide, by decide⟩
    let hasher : Password.Hasher := ⟨⟨8, 1, 1⟩, rfl⟩
    let memory : Memory := ⟨Table.empty, countingSupply⟩
    let schedule : List (Fin 2) := (List.replicate 5 (List.finRange 2)).flatten
    Unique memory.table ∧
    (Registrations.of signer namesakes memory).Along (Backend.ofMemory hasher).answer
      (Request.Favoured signer) schedule ∧
    Contest namesakes memory.table .username ∧
    OneWinner ((Registrations.of signer namesakes memory).run (Backend.ofMemory hasher).answer
      schedule) .usernameTaken := by
  intro signer hasher memory schedule
  have unique : Unique memory.table := fun mark => List.nodup_nil
  have favoured : (Registrations.of signer namesakes memory).Along
      (Backend.ofMemory hasher).answer (Request.Favoured signer) schedule := by
    decide +kernel
  have contest : Contest namesakes memory.table .username := by
    refine ⟨by decide +kernel, ?_, by decide +kernel, ?_⟩
    · intro client mark row member
      exact absurd member List.not_mem_nil
    · intro mark different
      cases mark with
      | username => contradiction
      | email => decide +kernel
  obtain ⟨-, ends, winner⟩ := registrations_sound hasher unique schedule favoured
  refine ⟨unique, favoured, contest, winner .username contest (by decide) ?_⟩
  intro client
  apply ends
  revert client
  decide

end Registrations

end Accounts.Service
