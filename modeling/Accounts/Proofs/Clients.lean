import Accounts.Proofs.Seeding

/-! Clients of all kinds on one store in memory. Whatever they come for, the administrator is
created once: whoever comes for it later finds it there, even deleted. -/

namespace Accounts.Service

open Store

inductive Errand
  | visit (made : Visit)
  | delete (id : Uuid)

namespace Errand

abbrev Value : Errand → Type
  | .visit made => made.Value
  | .delete _ => Unit

abbrev Outcome : Type := (errand : Errand) × Except Failure errand.Value

def useCase (signer : Token.Signer) : (errand : Errand) → UseCase (Except Failure errand.Value)
  | .visit made => made.useCase signer
  | .delete id => ask (.perform (.delete id))

def serve (signer : Token.Signer) (errand : Errand) : UseCase Outcome :=
  errand.useCase signer >>= fun result => .done ⟨errand, result⟩

theorem serve_spares (signer : Token.Signer) (errand : Errand) :
    (errand.serve signer).Only Request.Spares := by
  have told : (errand.useCase signer).Only Request.Spares := by
    cases errand with
    | visit made => exact (made.useCase_only signer).mono fun _ => Request.spares_of_adds
    | delete id => exact ⟨trivial, fun _ => trivial⟩
  exact told.bind fun _ => trivial

end Errand

/-! One client who comes for the administrator. -/

abbrev Errand.seeding (admin : DefaultAdmin) : Errand := .visit (.seed admin)

def told (admin : DefaultAdmin) (left : UseCase (Except Failure Seeding)) :
    UseCase Errand.Outcome :=
  left >>= fun result => .done ⟨.seeding admin, result⟩

theorem told_eq_done {admin : DefaultAdmin} {left : UseCase (Except Failure Seeding)}
    {result : Except Failure Seeding} :
    told admin left = .done ⟨.seeding admin, result⟩ ↔ left = .done result := by
  cases left with
  | done value =>
      change Program.done _ = _ ↔ _
      simp
  | ask request next =>
      change Program.ask _ _ = _ ↔ _
      simp

theorem ask_of_told {admin : DefaultAdmin} {left : UseCase (Except Failure Seeding)}
    {request : Request} {next : request.Reply → UseCase Errand.Outcome}
    (asked : told admin left = .ask request next) :
    ∃ more, left = .ask request more ∧ ∀ reply, next reply = told admin (more reply) := by
  cases left with
  | done value => contradiction
  | ask first more =>
      obtain ⟨rfl, same⟩ := Program.ask.inj asked
      exact ⟨more, rfl, fun reply => (congrFun (eq_of_heq same) reply).symm⟩

/-- How far the creation of an administrator has come, given the table as it is now. -/
inductive Seeks (admin : DefaultAdmin) (table : Table) : UseCase (Except Failure Seeding) → Prop
  | searching {names : UserName × Email}
      (read : readNames admin.username admin.email = .ok names) :
      Seeks admin table
        (.ask (.perform (.findByUsername names.1.text)) (afterSought names admin.password))
  | hashing {names : UserName × Email} {clear : Password.ClearText}
      (read : readNames admin.username admin.email = .ok names) :
      Seeks admin table
        (.ask (.hash clear) fun password => .ask (.create (adminOf names password)) afterSeeded)
  | creating {names : UserName × Email} {password : Password.Hashed}
      (read : readNames admin.username admin.email = .ok names) :
      Seeks admin table (.ask (.create (adminOf names password)) afterSeeded)
  | ended {outcome : Seeding} (occupied : Occupied admin table) :
      Seeks admin table (.done (.ok outcome))

namespace Seeks

variable {admin : DefaultAdmin} {names : UserName × Email} {clear : Password.ClearText}

theorem start (read : readNames admin.username admin.email = .ok names) (table : Table) :
    Seeks admin table (seed admin) := by
  rw [seed_eq, read]
  exact .searching read

theorem mono {table later : Table} (kept : Occupied admin table → Occupied admin later)
    {left : UseCase (Except Failure Seeding)} (seeks : Seeks admin table left) :
    Seeks admin later left := by
  cases seeks with
  | searching read => exact .searching read
  | hashing read => exact .hashing read
  | creating read => exact .creating read
  | ended occupied => exact .ended (kept occupied)

/-- What a request on the way to an administrator does: it leaves the table alone, or it creates the
administrator that was not there. -/
theorem step (hasher : Password.Hasher) (accepted : readPassword admin.password = .ok clear)
    {memory : Memory} {request : Request} {next : request.Reply → UseCase (Except Failure Seeding)}
    (seeks : Seeks admin memory.table (.ask request next)) :
    (((Backend.ofMemory hasher).answer request memory).2.table = memory.table ∧
      Seeks admin memory.table (next ((Backend.ofMemory hasher).answer request memory).1) ∧
      ∀ result, next ((Backend.ofMemory hasher).answer request memory).1 = .done result →
        result = .ok .alreadyPresent) ∨
    (¬ Occupied admin memory.table ∧
      Occupied admin ((Backend.ofMemory hasher).answer request memory).2.table ∧
      ∃ id, next ((Backend.ofMemory hasher).answer request memory).1 =
        .done (.ok (.created id))) := by
  cases seeks with
  | @searching names read =>
      rw [Backend.perform_findByUsername]
      refine .inl ⟨rfl, ?_⟩
      rcases memory.table.find_cases fun user => user.username.text == names.1.text with
        ⟨row, member, -, same, found⟩ | ⟨-, absent⟩
      · rw [found]
        refine ⟨.ended (occupied_of_find read member same), ?_⟩
        intro result ended
        exact (Program.done.inj ended).symm
      · rw [absent, afterSought, foundUser, accepted]
        refine ⟨.hashing read, ?_⟩
        intro result ended
        contradiction
  | hashing read =>
      refine .inl ⟨rfl, .creating read, ?_⟩
      intro result ended
      contradiction
  | @creating names password read =>
      rw [Backend.answer_create]
      rcases memory.table.create_cases memory.supply.next.1 (adminOf names password) with
        ⟨failure, refused, created⟩ | ⟨free, created⟩
      · obtain ⟨occupied, taken⟩ := occupied_of_checkUnique read refused
        rw [created]
        dsimp only
        rw [afterSeeded_of_isTaken taken]
        refine .inl ⟨rfl, .ended occupied, ?_⟩
        intro result ended
        exact (Program.done.inj ended).symm
      · rw [created]
        exact .inr ⟨not_occupied_of_checkUnique read free,
          occupied_put read memory.supply.next.1 password .admin, _, rfl⟩

end Seeks

theorem seed_within (admin : DefaultAdmin) : (seed admin).Within 3 := by
  rw [seed_eq]
  cases readNames admin.username admin.email with
  | error failure => trivial
  | ok names =>
      intro search
      unfold afterSought
      cases foundUser search with
      | error failure => trivial
      | ok user =>
          cases user with
          | some user => trivial
          | none =>
              cases readPassword admin.password with
              | error failure => trivial
              | ok password =>
                  intro hashed created
                  cases created with
                  | ok user => trivial
                  | error failure =>
                      cases failure with
                      | usernameTaken => trivial
                      | emailTaken => trivial
                      | _ => trivial

/-! All clients together. -/

abbrev Clients (ι : Type) : Type := Pool ι Memory Request Request.Reply Errand.Outcome

namespace Clients

variable {ι : Type}

def of (signer : Token.Signer) (errands : ι → Errand) (memory : Memory) : Clients ι where
  state := memory
  programs := fun client => (errands client).serve signer

def after [DecidableEq ι] (hasher : Password.Hasher) (pool : Clients ι) (schedule : List ι) :
    Clients ι := pool.run (Backend.ofMemory hasher).answer schedule

def Seeded (pool : Clients ι) (admin : DefaultAdmin) (client : ι)
    (result : Except Failure Seeding) : Prop :=
  pool.programs client = .done ⟨.seeding admin, result⟩

/-- What holds at every time, unless somebody writes over a row. -/
structure Calm (admin : DefaultAdmin) (errands : ι → Errand) (pool : Clients ι) : Prop where
  wellFormed : pool.state.table.WellFormed
  spares : ∀ client, (pool.programs client).Only Request.Spares
  seeks : ∀ client, errands client = .seeding admin →
    ∃ left, pool.programs client = told admin left ∧ Seeks admin pool.state.table left
  single : ∀ client other id id',
    errands client = .seeding admin → errands other = .seeding admin →
    pool.Seeded admin client (.ok (.created id)) →
    pool.Seeded admin other (.ok (.created id')) → client = other

variable {admin : DefaultAdmin} {names : UserName × Email} {clear : Password.ClearText}
  {errands : ι → Errand} {pool : Clients ι} {signer : Token.Signer} {memory : Memory} {client : ι}

theorem programs_of (seeder : errands client = .seeding admin) :
    (of signer errands memory).programs client = told admin (seed admin) := by
  change (errands client).serve signer = _
  rw [seeder]
  rfl

theorem not_seeded_of (read : readNames admin.username admin.email = .ok names)
    (seeder : errands client = .seeding admin) (result : Except Failure Seeding) :
    ¬ (of signer errands memory).Seeded admin client result := by
  rw [Seeded, programs_of seeder, told_eq_done, seed_eq, read]
  simp

theorem calm_of (read : readNames admin.username admin.email = .ok names)
    (wellFormed : memory.table.WellFormed) : Calm admin errands (of signer errands memory) where
  wellFormed := wellFormed
  spares := fun client => (errands client).serve_spares signer
  seeks := fun client seeder =>
    ⟨seed admin, programs_of seeder, Seeks.start read memory.table⟩
  single := by
    intro client other id id' seeder _ created _
    exact absurd created (not_seeded_of read seeder _)

theorem Calm.ended (calm : Calm admin errands pool) (seeder : errands client = .seeding admin)
    {result : Except Failure Seeding} (seeded : pool.Seeded admin client result) :
    Occupied admin pool.state.table ∧ ∃ outcome, result = .ok outcome := by
  obtain ⟨left, same, seeks⟩ := calm.seeks client seeder
  rw [Seeded, same, told_eq_done] at seeded
  rw [seeded] at seeks
  cases seeks with
  | ended occupied => exact ⟨occupied, _, rfl⟩

variable [DecidableEq ι] (hasher : Password.Hasher)

theorem Calm.seeder_turn (calm : Calm admin errands pool)
    (accepted : readPassword admin.password = .ok clear)
    (seeder : errands client = .seeding admin) {request : Request}
    {next : request.Reply → UseCase Errand.Outcome}
    (asked : pool.programs client = .ask request next) :
    ((pool.turn (Backend.ofMemory hasher).answer client).state.table = pool.state.table ∧
      (∃ left, (pool.turn (Backend.ofMemory hasher).answer client).programs client =
        told admin left ∧ Seeks admin pool.state.table left) ∧
      ∀ result, Seeded (pool.turn (Backend.ofMemory hasher).answer client) admin client result →
        result = .ok .alreadyPresent) ∨
    (¬ Occupied admin pool.state.table ∧
      Occupied admin (pool.turn (Backend.ofMemory hasher).answer client).state.table ∧
      ∃ id, Seeded (pool.turn (Backend.ofMemory hasher).answer client) admin client
        (.ok (.created id))) := by
  obtain ⟨left, same, seeks⟩ := calm.seeks client seeder
  rw [asked] at same
  obtain ⟨more, rfl, going⟩ := ask_of_told same.symm
  simp only [Seeded, Pool.state_turn asked, Pool.programs_turn_self asked, going, told_eq_done]
  rcases seeks.step hasher accepted with ⟨table, seeks, present⟩ | ⟨free, occupied, id, created⟩
  · exact .inl ⟨table, ⟨_, rfl, seeks⟩, present⟩
  · exact .inr ⟨free, occupied, id, created⟩

theorem Calm.free_of_created (calm : Calm admin errands pool)
    (accepted : readPassword admin.password = .ok clear)
    (seeder : errands client = .seeding admin) {request : Request}
    {next : request.Reply → UseCase Errand.Outcome}
    (asked : pool.programs client = .ask request next) {id : Uuid}
    (created : Seeded (pool.turn (Backend.ofMemory hasher).answer client) admin client
      (.ok (.created id))) : ¬ Occupied admin pool.state.table := by
  rcases calm.seeder_turn hasher accepted seeder asked with ⟨-, -, present⟩ | ⟨free, -⟩
  · have same := present _ created
    simp at same
  · exact free

theorem seeded_of_turn {other : ι} (different : other ≠ client)
    {result : Except Failure Seeding}
    (seeded : Seeded (pool.turn (Backend.ofMemory hasher).answer client) admin other result) :
    pool.Seeded admin other result := by
  rwa [Seeded, Pool.programs_turn_of_ne pool different] at seeded

/-- Nobody else has ended by the time that somebody creates the administrator. -/
theorem Calm.alone (calm : Calm admin errands pool)
    (accepted : readPassword admin.password = .ok clear)
    (seeder : errands client = .seeding admin) {request : Request}
    {next : request.Reply → UseCase Errand.Outcome}
    (asked : pool.programs client = .ask request next) {id : Uuid}
    (created : Seeded (pool.turn (Backend.ofMemory hasher).answer client) admin client
      (.ok (.created id)))
    {other : ι} (other_seeder : errands other = .seeding admin) (different : other ≠ client)
    (result : Except Failure Seeding) :
    ¬ Seeded (pool.turn (Backend.ofMemory hasher).answer client) admin other result := by
  intro seeded
  have occupied : Occupied admin pool.state.table :=
    (calm.ended other_seeder (seeded_of_turn hasher different seeded)).1
  exact calm.free_of_created hasher accepted seeder asked created occupied

theorem Calm.occupied_turn (calm : Calm admin errands pool) {request : Request}
    {next : request.Reply → UseCase Errand.Outcome}
    (asked : pool.programs client = .ask request next) (idNew : request.IdNew pool.state)
    (occupied : Occupied admin pool.state.table) :
    Occupied admin (pool.turn (Backend.ofMemory hasher).answer client).state.table := by
  obtain ⟨spares, -⟩ : (Program.ask request next).Only Request.Spares :=
    asked ▸ calm.spares client
  rw [Pool.state_turn asked]
  exact occupied.answer calm.wellFormed hasher spares idNew

theorem Calm.turn (calm : Calm admin errands pool)
    (accepted : readPassword admin.password = .ok clear) {request : Request}
    {next : request.Reply → UseCase Errand.Outcome}
    (asked : pool.programs client = .ask request next) (idNew : request.IdNew pool.state) :
    Calm admin errands (pool.turn (Backend.ofMemory hasher).answer client) := by
  have kept := calm.occupied_turn hasher asked idNew
  -- Only one client has come further, and what is known of the others depends on the table alone.
  refine ⟨?_, ?_, ?_, ?_⟩
  · rw [Pool.state_turn asked]
    exact Event.kept_wellFormed.answer hasher request pool.state idNew calm.wellFormed
  · obtain ⟨-, later⟩ : (Program.ask request next).Only Request.Spares :=
      asked ▸ calm.spares client
    intro other
    by_cases same : other = client
    · subst same
      rw [Pool.programs_turn_self asked]
      exact later _
    · rw [Pool.programs_turn_of_ne pool same]
      exact calm.spares other
  · intro other seeder
    by_cases same : other = client
    · subst same
      rcases calm.seeder_turn hasher accepted seeder asked with
        ⟨table, ⟨left, going, seeks⟩, -⟩ | ⟨-, occupied, id, created⟩
      · exact ⟨left, going, seeks.mono kept⟩
      · exact ⟨.done (.ok (.created id)), created, .ended occupied⟩
    · obtain ⟨left, going, seeks⟩ := calm.seeks other seeder
      rw [Pool.programs_turn_of_ne pool same]
      exact ⟨left, going, seeks.mono kept⟩
  · intro first second id id' seeder seeder' created created'
    by_cases same : first = client
    · by_cases same' : second = client
      · rw [same, same']
      · subst same
        exact absurd created' (calm.alone hasher accepted seeder asked created seeder' same' _)
    · by_cases same' : second = client
      · subst same'
        exact absurd created (calm.alone hasher accepted seeder' asked created' seeder same _)
      · exact calm.single first second id id' seeder seeder'
          (seeded_of_turn hasher same created) (seeded_of_turn hasher same' created')

/-- What holds once the administrator is there: whoever has not ended by then finds it. -/
structure Settled (admin : DefaultAdmin) (errands : ι → Errand) (early : ι → Prop)
    (pool : Clients ι) : Prop where
  calm : Calm admin errands pool
  occupied : Occupied admin pool.state.table
  present : ∀ client, errands client = .seeding admin → ¬ early client →
    ∀ result, pool.Seeded admin client result → result = .ok .alreadyPresent

variable {early : ι → Prop}

theorem Settled.seeder_turn (settled : Settled admin errands early pool)
    (accepted : readPassword admin.password = .ok clear)
    (seeder : errands client = .seeding admin) {request : Request}
    {next : request.Reply → UseCase Errand.Outcome}
    (asked : pool.programs client = .ask request next) :
    (pool.turn (Backend.ofMemory hasher).answer client).state.table = pool.state.table ∧
      ∀ result, Seeded (pool.turn (Backend.ofMemory hasher).answer client) admin client result →
        result = .ok .alreadyPresent := by
  rcases settled.calm.seeder_turn hasher accepted seeder asked with
    ⟨table, -, present⟩ | ⟨free, -⟩
  · exact ⟨table, present⟩
  · exact absurd settled.occupied free

theorem Settled.table_turn (settled : Settled admin errands early pool)
    (accepted : readPassword admin.password = .ok clear)
    (seeder : errands client = .seeding admin) :
    (pool.turn (Backend.ofMemory hasher).answer client).state.table = pool.state.table := by
  cases came : pool.programs client with
  | done outcome => rw [Pool.turn_done came]
  | ask request next => exact (settled.seeder_turn hasher accepted seeder came).1

theorem Settled.turn (settled : Settled admin errands early pool)
    (accepted : readPassword admin.password = .ok clear) {request : Request}
    {next : request.Reply → UseCase Errand.Outcome}
    (asked : pool.programs client = .ask request next) (idNew : request.IdNew pool.state) :
    Settled admin errands early (pool.turn (Backend.ofMemory hasher).answer client) := by
  refine ⟨settled.calm.turn hasher accepted asked idNew,
    settled.calm.occupied_turn hasher asked idNew settled.occupied, ?_⟩
  intro other seeder late result seeded
  by_cases same : other = client
  · subst same
    exact (settled.seeder_turn hasher accepted seeder asked).2 result seeded
  · exact settled.present other seeder late result (seeded_of_turn hasher same seeded)

theorem after_append (pool : Clients ι) (earlier later : List ι) :
    pool.after hasher (earlier ++ later) = (pool.after hasher earlier).after hasher later :=
  Pool.run_append pool earlier later

theorem not_seeded_of_idle (read : readNames admin.username admin.email = .ok names)
    (seeder : errands client = .seeding admin) {schedule : List ι} (idle : client ∉ schedule)
    (result : Except Failure Seeding) :
    ¬ ((of signer errands memory).after hasher schedule).Seeded admin client result := by
  rw [Seeded, after, Pool.programs_run_of_not_mem _ idle]
  exact not_seeded_of read seeder result

/-- Whether clients who take turns on a schedule create an administrator once at most. Once one of
them has got an answer, the others find the administrator there and leave the table alone. -/
structure SeedsOnce (hasher : Password.Hasher) (admin : DefaultAdmin) (errands : ι → Errand)
    (start : Clients ι) (schedule : List ι) : Prop where
  ends : ∀ client, errands client = .seeding admin → 3 ≤ schedule.count client →
    ∃ result, (start.after hasher schedule).Seeded admin client result
  succeeds : ∀ client result, errands client = .seeding admin →
    (start.after hasher schedule).Seeded admin client result → ∃ outcome, result = .ok outcome
  single : ∀ client other id id',
    errands client = .seeding admin → errands other = .seeding admin →
    (start.after hasher schedule).Seeded admin client (.ok (.created id)) →
    (start.after hasher schedule).Seeded admin other (.ok (.created id')) → client = other
  settled : ∀ earlier later first answered, schedule = earlier ++ later →
    errands first = .seeding admin → (start.after hasher earlier).Seeded admin first answered →
    ∀ client, errands client = .seeding admin →
    (∀ result, ¬ (start.after hasher earlier).Seeded admin client result) →
    (∀ result, (start.after hasher schedule).Seeded admin client result →
      result = .ok .alreadyPresent) ∧
    (start.after hasher (schedule ++ [client])).state.table =
      (start.after hasher schedule).state.table

theorem calm_run (read : readNames admin.username admin.email = .ok names)
    (accepted : readPassword admin.password = .ok clear) (wellFormed : memory.table.WellFormed)
    {schedule : List ι} (idsNew : (of signer errands memory).Along
      (Backend.ofMemory hasher).answer Request.IdNew schedule) :
    Calm admin errands ((of signer errands memory).after hasher schedule) := by
  refine Pool.invariant_run ?_ idsNew (calm_of read wellFormed)
  intro pool client request next asked idNew calm
  exact calm.turn hasher accepted asked idNew

/-- Once somebody who has come for the administrator has ended, all is settled for those who have
not. -/
theorem settled_run (read : readNames admin.username admin.email = .ok names)
    (accepted : readPassword admin.password = .ok clear) (wellFormed : memory.table.WellFormed)
    {earlier later : List ι} (idsNew : (of signer errands memory).Along
      (Backend.ofMemory hasher).answer Request.IdNew (earlier ++ later))
    {first : ι} (seeder : errands first = .seeding admin) {answered : Except Failure Seeding}
    (seeded : ((of signer errands memory).after hasher earlier).Seeded admin first answered) :
    Settled admin errands
      (fun client => ∃ result, ((of signer errands memory).after hasher earlier).Seeded admin
        client result)
      ((of signer errands memory).after hasher (earlier ++ later)) := by
  obtain ⟨early_new, late_new⟩ := Pool.along_append.mp idsNew
  have calm := calm_run hasher read accepted wellFormed early_new
  rw [after_append]
  -- The run starts anew where the first answer has come, and nobody who matters has ended there.
  refine Pool.invariant_run ?_ late_new ⟨calm, (calm.ended seeder seeded).1, ?_⟩
  · intro pool client request next asked idNew settled
    exact settled.turn hasher accepted asked idNew
  · intro client _ late result ended
    exact absurd ⟨result, ended⟩ late

/-- Whoever comes for the administrator has ended after three turns. -/
theorem ends_of_three (seeder : errands client = .seeding admin) {schedule : List ι}
    (calm : Calm admin errands ((of signer errands memory).after hasher schedule))
    (turns : 3 ≤ schedule.count client) :
    ∃ result, ((of signer errands memory).after hasher schedule).Seeded admin client result := by
  have within : ((of signer errands memory).programs client).Within 3 := by
    rw [programs_of seeder]
    exact (seed_within admin).bind fun _ => trivial
  obtain ⟨outcome, ended⟩ : ∃ outcome, ((of signer errands memory).after hasher
      schedule).programs client = .done outcome := Pool.ends_of_within within turns
  obtain ⟨left, same, -⟩ := calm.seeks client seeder
  rw [ended] at same
  cases left with
  | done result => exact ⟨result, ended.trans same⟩
  | ask request next => contradiction

theorem seedsOnce (read : readNames admin.username admin.email = .ok names)
    (accepted : readPassword admin.password = .ok clear) (wellFormed : memory.table.WellFormed)
    {schedule : List ι} (idsNew : (of signer errands memory).Along
      (Backend.ofMemory hasher).answer Request.IdNew schedule) :
    SeedsOnce hasher admin errands (of signer errands memory) schedule := by
  have calm := calm_run hasher read accepted wellFormed idsNew
  refine ⟨?_, ?_, calm.single, ?_⟩
  · intro client seeder turns
    exact ends_of_three hasher seeder calm turns
  · intro client result seeder seeded
    exact (calm.ended seeder seeded).2
  · intro earlier later first answered same first_seeder seeded client seeder waiting
    subst same
    have settled := settled_run hasher read accepted wellFormed idsNew first_seeder seeded
    refine ⟨?_, ?_⟩
    · apply settled.present client seeder
      intro early
      obtain ⟨result, ended⟩ := early
      exact waiting result ended
    · rw [after_append]
      exact settled.table_turn hasher accepted seeder

end Clients

/-- The administrator is created if no row, deleted or not, has the name or the address, and counts
as present otherwise. Among clients of all kinds who take turns in any order it is created once at
most, and once anyone who asks for it has got an answer it is there for all who ask later. An
administrator whose name or address is refused leaves everything as it is. -/
theorem administrator_is_created_once {instruments : Instruments} {memory : Memory}
    {admin : DefaultAdmin} {name : UserName} {address : Email} {clear : Password.ClearText}
    (fits : instruments.hasher.cost.Fits) (reachable : memory.table.Reachable)
    (username : UserName.of admin.username = .ok name)
    (email : Email.of admin.email = .ok address)
    (password : Password.ClearText.of admin.password = .ok clear) :
    ((seed admin).Along (Backend.ofMemory instruments.hasher).answer Request.IdNew memory →
      SeedsExactly instruments.hasher admin clear memory) ∧
    (∀ (ι : Type) [DecidableEq ι] (errands : ι → Errand) (schedule : List ι),
      (Clients.of instruments.signer errands memory).Along
        (Backend.ofMemory instruments.hasher).answer Request.IdNew schedule →
      Clients.SeedsOnce instruments.hasher admin errands
        (Clients.of instruments.signer errands memory) schedule) ∧
    ∀ other : DefaultAdmin, ¬ ((UserName.of other.username).isOk ∧ (Email.of other.email).isOk) →
      ∃ reason, seed other = .done (.error (.validation reason)) ∧
        seedOn instruments.hasher other memory = (.error (.validation reason), memory) := by
  have read := readNames_ok username email
  have accepted := readPassword_of_ok password
  refine ⟨seedsExactly instruments.hasher fits read accepted, ?_, ?_⟩
  · intro ι _ errands schedule idsNew
    exact Clients.seedsOnce instruments.hasher read accepted reachable.wellFormed idsNew
  · intro other refused
    obtain ⟨reason, same⟩ := seed_of_invalid refused
    refine ⟨reason, same, ?_⟩
    rw [seedOn, same]
    rfl

def threeErrands (admin : DefaultAdmin) (id : Uuid) : Fin 3 → Errand
  | 0 => .seeding admin
  | 1 => .delete id
  | 2 => .seeding admin

/-- The administrator is created and deleted before anyone else comes for it. -/
theorem administrator_is_created_once_deleted :
    let signer : Token.Signer := ⟨"key", 1, by decide, by decide, by decide⟩
    let instruments : Instruments := ⟨signer, ⟨⟨8, 1, 1⟩, rfl⟩⟩
    let memory : Memory := ⟨Table.empty, countingSupply⟩
    let admin : DefaultAdmin := ⟨"admin", "admin@x.io", "admin-pass"⟩
    let start := Clients.of signer (threeErrands admin (countingSupply.piece 2).id) memory
    (∃ id, (seedOn instruments.hasher admin memory).1 = .ok (.created id)) ∧
    (start.after instruments.hasher [0, 0, 0, 1, 2, 2, 2]).Seeded admin 2
      (.ok .alreadyPresent) := by
  intro signer instruments memory admin start
  have reachable : memory.table.Reachable := ⟨instruments, countingSupply, [], trivial, rfl⟩
  obtain ⟨name, username⟩ : ∃ name, UserName.of admin.username = .ok name :=
    exists_of_isOk (by decide +kernel)
  obtain ⟨address, email⟩ : ∃ address, Email.of admin.email = .ok address :=
    exists_of_isOk (by decide +kernel)
  obtain ⟨clear, password⟩ : ∃ clear, Password.ClearText.of admin.password = .ok clear :=
    exists_of_isOk (by decide +kernel)
  have fits : instruments.hasher.cost.Fits := ⟨by decide, by decide⟩
  obtain ⟨exactly, once, -⟩ :=
    administrator_is_created_once fits reachable username email password
  refine ⟨?_, ?_⟩
  · apply (exactly (by decide +kernel)).created_iff.mpr
    intro occupied
    obtain ⟨row, member, -⟩ := occupied
    exact absurd member List.not_mem_nil
  · have created := once (Fin 3) (threeErrands admin (countingSupply.piece 2).id) [0, 0, 0]
      (by decide +kernel)
    have later := once (Fin 3) (threeErrands admin (countingSupply.piece 2).id)
      [0, 0, 0, 1, 2, 2, 2] (by decide +kernel)
    obtain ⟨answered, first⟩ := created.ends 0 rfl (by decide)
    obtain ⟨result, last⟩ := later.ends 2 rfl (by decide)
    have seeder : threeErrands admin (countingSupply.piece 2).id 2 = .seeding admin := rfl
    have idle : (2 : Fin 3) ∉ [0, 0, 0] := by decide
    have waiting : ∀ result,
        ¬ (start.after instruments.hasher [0, 0, 0]).Seeded admin 2 result :=
      Clients.not_seeded_of_idle instruments.hasher (readNames_ok username email) seeder idle
    obtain ⟨present, -⟩ :=
      later.settled [0, 0, 0] [1, 2, 2, 2] 0 answered rfl rfl first 2 seeder waiting
    rw [← present result last]
    exact last

end Accounts.Service
