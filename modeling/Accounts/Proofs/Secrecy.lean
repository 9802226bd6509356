import Accounts.Proofs.Disclosure
import Accounts.Proofs.Http.Privilege
import Accounts.Proofs.Store.Unhashed

/-! Stored hashes do not show. Two services that start with tables alike but for the hashes give the
same responses for as long as logins are verified alike. -/

namespace Accounts

open Service Store

namespace Service

def Request.RepliesAlike : (request : Request) → request.Reply → request.Reply → Prop
  | .perform (.findByUsername _), reply, other =>
    reply.map User.unhashed = other.map User.unhashed
  | .perform (.findByEmail _), reply, other => reply.map User.unhashed = other.map User.unhashed
  | .perform (.findById _), reply, other => reply.map User.unhashed = other.map User.unhashed
  | _, reply, other => reply = other

theorem alike_cases {search other : Except Failure User}
    (same : search.map User.unhashed = other.map User.unhashed) :
    (∃ failure, search = .error failure ∧ other = .error failure) ∨
    ∃ user like, search = .ok user ∧ other = .ok like ∧ user.unhashed = like.unhashed := by
  cases search with
  | error failure =>
      cases other with
      | error failure' => exact .inl ⟨failure, rfl, (congrArg _ (Except.error.inj same)).symm⟩
      | ok like => contradiction
  | ok user =>
      cases other with
      | error failure => contradiction
      | ok like => exact .inr ⟨user, like, rfl, rfl, Except.ok.inj same⟩

/-- Whether two memories have one supply and tables that differ in nothing but the hashes of rows
that they have had from the start. -/
structure Together (start start' : Table) (memory memory' : Memory) : Prop where
  supply : memory.supply = memory'.supply
  tables : Table.SameButHashes start start' memory.table memory'.table

variable {start start' : Table} {memory memory' : Memory} (hasher : Password.Hasher)

theorem Together.answer {good : Role → Prop} {request : Request}
    (together : Together start start' memory memory') (adds : request.Adds good) :
    request.RepliesAlike ((Backend.ofMemory hasher).answer request memory).1
        ((Backend.ofMemory hasher).answer request memory').1 ∧
      Together start start' ((Backend.ofMemory hasher).answer request memory).2
        ((Backend.ofMemory hasher).answer request memory').2 := by
  obtain ⟨table, supply⟩ := memory
  obtain ⟨table', supply'⟩ := memory'
  obtain ⟨supplies, tables⟩ := together
  obtain rfl : supply = supply' := supplies
  cases request with
  | perform operation =>
      cases operation with
      | findByUsername username =>
          exact ⟨tables.alike.find_username tables.wellFormed username, rfl, tables⟩
      | findByEmail email => exact ⟨tables.alike.find_email tables.wellFormed _, rfl, tables⟩
      | findById id => exact ⟨tables.alike.find_id tables.wellFormed id, rfl, tables⟩
      | create new => exact adds.elim
      | update user => exact adds.elim
      | delete id => exact adds.elim
  | create new =>
      rw [Backend.answer_create, Backend.answer_create]
      obtain ⟨results, later⟩ := tables.create supply.next.1 new
      exact ⟨results, rfl, later⟩
  | hash password => exact ⟨rfl, rfl, tables⟩
  | verify hashed password => exact ⟨rfl, rfl, tables⟩
  | now => exact ⟨rfl, rfl, tables⟩

structure RunsAlike {α : Type} (start start' : Table) (memory memory' : Memory)
    (useCase : UseCase α) : Prop where
  result : ((Backend.ofMemory hasher).run useCase memory).1 =
    ((Backend.ofMemory hasher).run useCase memory').1
  together : Together start start' ((Backend.ofMemory hasher).run useCase memory).2
    ((Backend.ofMemory hasher).run useCase memory').2

theorem Together.run {α : Type} {good : Role → Prop} {useCase : UseCase α}
    (together : Together start start' memory memory')
    (respects : useCase.Respects Request.RepliesAlike)
    (only : useCase.Only (Request.Adds good)) :
    RunsAlike hasher start start' memory memory' useCase := by
  obtain ⟨result, later⟩ :=
    respects.run only (fun _ _ _ adds together => together.answer hasher adds) together
  exact ⟨result, later⟩

/-! Use cases that never look at a hash. -/

section Blind

variable (signer : Token.Signer)

theorem afterNow_alike {user like : User} (same : user.unhashed = like.unhashed) :
    afterNow signer user = afterNow signer like :=
  User.told_alike (afterNow signer) (fun _ => rfl) same

theorem afterNow_respects (user : User) (now : Time.Instant) :
    (afterNow signer user now).Respects Request.RepliesAlike := by
  obtain ⟨result, issued⟩ := afterNow_done signer user now
  rw [issued]
  trivial

theorem ensureAbsent_alike {search other : Except Failure User}
    (same : search.map User.unhashed = other.map User.unhashed) (taken : Failure) :
    ensureAbsent search taken = ensureAbsent other taken := by
  rcases alike_cases same with ⟨failure, rfl, rfl⟩ | ⟨user, like, rfl, rfl, -⟩
  · rfl
  · rfl

theorem afterHash_respects (names : UserName × Email) (hashed : Password.Hashed) :
    (afterHash signer names hashed).Respects Request.RepliesAlike := by
  refine ⟨fun created other same => congrArg _ same, fun created => ?_⟩
  cases created with
  | error failure => trivial
  | ok user =>
      exact ⟨fun now other same => congrArg _ same, afterNow_respects signer user⟩

theorem register_respects (input : Registration) :
    (register signer input).Respects Request.RepliesAlike := by
  rw [register_eq]
  cases readNames input.username input.email with
  | error failure => trivial
  | ok names =>
      refine ⟨?_, fun byUsername => ?_⟩
      · intro search other same
        rw [afterUsername, afterUsername, ensureAbsent_alike same]
      unfold afterUsername
      cases ensureAbsent byUsername .usernameTaken with
      | error failure => trivial
      | ok free =>
          refine ⟨?_, fun byEmail => ?_⟩
          · intro search other same
            rw [afterEmail, afterEmail, ensureAbsent_alike same]
          unfold afterEmail
          cases ensureAbsent byEmail .emailTaken with
          | error failure => trivial
          | ok free =>
              cases readPassword input.password with
              | error failure => trivial
              | ok password =>
                  exact ⟨fun hashed other same => congrArg _ same, afterHash_respects signer names⟩

theorem afterVerified_respects (user : Option User) (verified : Bool) :
    (afterVerified signer user verified).Respects Request.RepliesAlike := by
  cases user with
  | none => trivial
  | some user =>
      cases verified with
      | false => trivial
      | true => exact ⟨fun now other same => congrArg _ same, afterNow_respects signer user⟩

theorem afterVerified_alike {user like : User} (same : user.unhashed = like.unhashed)
    (verified : Bool) :
    afterVerified signer (some user) verified = afterVerified signer (some like) verified := by
  cases verified with
  | false => rfl
  | true => exact congrArg (Program.ask Request.now) (afterNow_alike signer same)

end Blind

/-! Logins, which look at the hash of the row that is found. -/

/-- Whether the password of a login gets the same verdict from the live rows of its name in two
tables. -/
def SameVerdict (input : Login) (table table' : Table) : Prop :=
  ∀ clear, Password.ClearText.of input.password = .ok clear →
    ∀ row ∈ table.users, ∀ row' ∈ table'.users, row.unhashed = row'.unhashed →
      row.isDeleted = false → row.username.text = input.username →
      row.password.verifies clear = row'.password.verifies clear

theorem Together.tick (together : Together start start' memory memory') :
    Together start start' ⟨memory.table, memory.supply.next.2⟩
      ⟨memory'.table, memory'.supply.next.2⟩ where
  supply := by rw [together.supply]
  tables := together.tables

theorem Together.run_login_found (signer : Token.Signer) {input : Login} {user like : User}
    {clear : Password.ClearText} (together : Together start start' memory memory')
    (read : Password.ClearText.of input.password = .ok clear)
    (found : memory.table.find (fun user => user.username.text == input.username) = .ok user)
    (found' : memory'.table.find (fun user => user.username.text == input.username) = .ok like)
    (same : user.unhashed = like.unhashed)
    (verified : user.password.verifies clear = like.password.verifies clear) :
    RunsAlike hasher start start' memory memory' (login signer input) := by
  let onward := afterVerified signer (some like) (like.password.verifies clear)
  have only : onward.Only (Request.Adds fun _ => True) := afterVerified_only signer _ _
  have ran : (Backend.ofMemory hasher).run (login signer input) memory =
      (Backend.ofMemory hasher).run onward ⟨memory.table, memory.supply.next.2⟩ := by
    rw [Backend.run_login_found hasher read found, verified, afterVerified_alike signer same]
  have ran' : (Backend.ofMemory hasher).run (login signer input) memory' =
      (Backend.ofMemory hasher).run onward ⟨memory'.table, memory'.supply.next.2⟩ :=
    Backend.run_login_found hasher read found'
  obtain ⟨result, later⟩ := together.tick.run hasher (afterVerified_respects signer _ _) only
  constructor
  · rw [ran, ran']
    exact result
  · rw [ran, ran']
    exact later

theorem Together.run_login_unknown (signer : Token.Signer) {input : Login}
    {clear : Password.ClearText} (together : Together start start' memory memory')
    (read : Password.ClearText.of input.password = .ok clear)
    (absent : memory.table.find (fun user => user.username.text == input.username) =
      .error .userNotFound)
    (absent' : memory'.table.find (fun user => user.username.text == input.username) =
      .error .userNotFound) :
    RunsAlike hasher start start' memory memory' (login signer input) := by
  constructor
  · rw [Backend.run_login_unknown hasher read absent, Backend.run_login_unknown hasher read absent']
  · rw [Backend.run_login_unknown hasher read absent, Backend.run_login_unknown hasher read absent']
    exact together.tick

theorem Together.run_login (signer : Token.Signer) {input : Login}
    (together : Together start start' memory memory')
    (verdict : SameVerdict input memory.table memory'.table) :
    RunsAlike hasher start start' memory memory' (login signer input) := by
  let named := fun user : User => user.username.text == input.username
  cases read : Password.ClearText.of input.password with
  | error error =>
      have weak : login signer input = .done (.error .invalidCredentials) := by rw [login_eq, read]
      rw [weak]
      exact ⟨rfl, together⟩
  | ok clear =>
      -- the search comes to the same in both, so that two of the four cases cannot be
      have alike := together.tables.alike.find_username together.tables.wellFormed input.username
      rcases memory.table.find_cases named with ⟨user, stored, live, holds, found⟩ | ⟨-, absent⟩
      · rcases memory'.table.find_cases named with ⟨like, stored', -, -, found'⟩ | ⟨-, absent'⟩
        · rw [found, found'] at alike
          have same : user.unhashed = like.unhashed := Except.ok.inj alike
          have verified : user.password.verifies clear = like.password.verifies clear :=
            verdict clear read user stored like stored' same live (eq_of_beq holds)
          exact together.run_login_found hasher signer read found found' same verified
        · rw [found, absent'] at alike
          contradiction
      · rcases memory'.table.find_cases named with ⟨like, -, -, -, found'⟩ | ⟨-, absent'⟩
        · rw [absent, found'] at alike
          contradiction
        · exact together.run_login_unknown hasher signer read absent absent'

end Service

/-! Requests. -/

namespace Http

variable {start start' : Table} {memory memory' : Memory} {instruments : Instruments}
  {route : Route} {request : Request}

theorem respond_alike {search other : Except Failure User}
    (same : search.map User.unhashed = other.map User.unhashed) :
    respond 200 (fun user => (Wire.Profile.ofView user.view).document) search =
      respond 200 (fun user => (Wire.Profile.ofView user.view).document) other := by
  rcases alike_cases same with ⟨failure, rfl, rfl⟩ | ⟨user, like, rfl, rfl, hidden⟩
  · rfl
  · have views : user.view = like.view := User.told_alike User.view (fun _ => rfl) hidden
    rw [respond, respond, views]

theorem answerGuarded_respects (claims : Token.Claims) :
    (answerGuarded route claims).Respects Service.Request.RepliesAlike := by
  unfold answerGuarded
  split
  · trivial
  · unfold answerProfile
    cases Uuid.parse? claims.userId with
    | none => trivial
    | some id =>
        exact ⟨fun search other same => congrArg Program.done (respond_alike same),
          fun search => trivial⟩

theorem answerOpen_respects (signer : Token.Signer) (other : route ≠ .login) :
    (answerOpen signer route request).Respects Service.Request.RepliesAlike := by
  cases route with
  | register =>
      unfold answerOpen
      cases readDocument Wire.Registration.reader request with
      | error response => trivial
      | ok input =>
          refine Program.Respects.bind ?_ fun result => trivial
          unfold answerRegistration
          cases input.check with
          | error failure => trivial
          | ok accepted => exact register_respects signer _
  | login => contradiction
  | ping => trivial
  | profile => trivial
  | adminTest => trivial

theorem answerRoute_respects (signer : Token.Signer) (other : route ≠ .login) :
    (answerRoute signer route request).Respects Service.Request.RepliesAlike := by
  unfold answerRoute
  split
  · refine ⟨fun now later same => by rw [(same : now = later)], fun now => ?_⟩
    dsimp only [Program.andThen]
    cases passGuards signer route now.second request with
    | error failure => trivial
    | ok claims =>
        dsimp only
        split
        · exact answerGuarded_respects claims
        · trivial
  · split
    · exact answerOpen_respects signer other
    · trivial

theorem runsAlike_answerLogin (instruments : Instruments)
    (together : Together start start' memory memory')
    (verdict : ∀ wire, readDocument Wire.Login.reader request = .ok wire →
      SameVerdict ⟨wire.username, wire.password⟩ memory.table memory'.table) :
    RunsAlike instruments.hasher start start' memory memory'
      (answerOpen instruments.signer .login request) := by
  unfold answerOpen
  cases read : readDocument Wire.Login.reader request with
  | error response => exact ⟨rfl, together⟩
  | ok wire =>
      let input : Login := ⟨wire.username, wire.password⟩
      have answered : ∀ met : Memory, (Backend.ofMemory instruments.hasher).run
          (do return respond 200 sessionDocument (← login instruments.signer input)) met =
            (respond 200 sessionDocument (loginOn instruments met input).1,
              (loginOn instruments met input).2) := by
        intro met
        rw [Backend.run, Program.run_bind]
        rfl
      obtain ⟨result, later⟩ :=
        together.run_login instruments.hasher instruments.signer (verdict wire read)
      constructor
      · rw [answered, answered]
        exact congrArg (respond 200 sessionDocument) result
      · rw [answered, answered]
        exact later

theorem runsAlike_answerRoute (instruments : Instruments)
    (together : Together start start' memory memory') (path : request.path = route.path)
    (verdict : ∀ input, ReadsLogin request input →
      SameVerdict input memory.table memory'.table) :
    RunsAlike instruments.hasher start start' memory memory'
      (answerRoute instruments.signer route request) := by
  by_cases login : route = .login
  · subst login
    have open_route : answerRoute instruments.signer .login request =
        if Route.login.allows request.method then answerOpen instruments.signer .login request
        else .done methodNotAllowed := rfl
    rw [open_route]
    split
    next allowed =>
      exact runsAlike_answerLogin instruments together
        fun wire read => verdict _ ⟨path, eq_of_beq allowed, wire, read, rfl⟩
    · exact ⟨rfl, together⟩
  · exact together.run instruments.hasher (answerRoute_respects instruments.signer login)
      (answerRoute_only instruments.signer)

/-- A request is answered alike by services that go together, if a login is verified alike, and
leaves them so. -/
theorem exchange_together (together : Together start start' memory memory')
    (verdict : ∀ input, ReadsLogin request input →
      SameVerdict input memory.table memory'.table) :
    (exchange instruments request memory).1 = (exchange instruments request memory').1 ∧
      Together start start' (exchange instruments request memory).2
        (exchange instruments request memory').2 := by
  cases found : Route.ofPath? request.path with
  | none =>
      rw [exchange_of_none instruments found, exchange_of_none instruments found]
      exact ⟨rfl, together⟩
  | some route =>
      have path := ofPath?_eq_some.mp found
      have answered := runsAlike_answerRoute instruments together path verdict
      rw [exchange_of_path instruments path, exchange_of_path instruments path]
      exact ⟨congrArg (sent route request) answered.result, answered.together⟩

def responses (instruments : Instruments) : Memory → List Request → List Response
  | _, [] => []
  | memory, request :: requests =>
    (exchange instruments request memory).1 ::
      responses instruments (exchange instruments request memory).2 requests

/-- Whether each login among requests gets the same verdict from two services that are sent the
requests one after another. -/
def SameVerdicts (instruments : Instruments) : Memory → Memory → List Request → Prop
  | _, _, [] => True
  | memory, memory', request :: requests =>
    (∀ input, ReadsLogin request input → SameVerdict input memory.table memory'.table) ∧
      SameVerdicts instruments (exchange instruments request memory).2
        (exchange instruments request memory').2 requests

theorem exchangeAll_together {requests : List Request}
    (together : Together start start' memory memory')
    (verdicts : SameVerdicts instruments memory memory' requests) :
    responses instruments memory requests = responses instruments memory' requests ∧
      Together start start' (exchangeAll instruments memory requests)
        (exchangeAll instruments memory' requests) := by
  induction requests generalizing memory memory' with
  | nil => exact ⟨rfl, together⟩
  | cons request requests ih =>
      obtain ⟨response, later⟩ := exchange_together together verdicts.1
      obtain ⟨rest, last⟩ := ih later verdicts.2
      exact ⟨by rw [responses, responses, response, rest], last⟩

end Http

/-- Stored hashes do not leak. Two services that draw on one supply and start with tables alike but
for the hashes, one of which can be reached, answer any requests alike, as long as the logins among
them get the same verdicts. Their tables end alike but for hashes of rows that both have had from the
start. -/
theorem hashes_do_not_leak {instruments : Instruments} {memory memory' : Memory}
    (reachable : memory.table.Reachable) (alike : memory.table.Alike memory'.table)
    (supply : memory.supply = memory'.supply) {requests : List Http.Request}
    (verdicts : Http.SameVerdicts instruments memory memory' requests) :
    Http.responses instruments memory requests = Http.responses instruments memory' requests ∧
    Table.SameButHashes memory.table memory'.table
      (Http.exchangeAll instruments memory requests).table
      (Http.exchangeAll instruments memory' requests).table := by
  have together : Together memory.table memory'.table memory memory' :=
    ⟨supply, reachable.wellFormed, alike, fun key => .inr ⟨rfl, rfl⟩⟩
  obtain ⟨responses, last⟩ := Http.exchangeAll_together together verdicts
  exact ⟨responses, last.tables⟩

/-- A password is stored under two salts, and whoever logs in with it cannot tell under which. -/
theorem hashes_do_not_leak_salts :
    let signer : Token.Signer := ⟨"key", 1, by decide, by decide, by decide⟩
    let instruments : Instruments := ⟨signer, ⟨⟨8, 1, 1⟩, rfl⟩⟩
    let clear : Password.ClearText := ⟨"secret1", by decide, by decide⟩
    let new : UInt8 → NewUser := fun byte =>
      { username := ⟨"alice"⟩, email := ⟨"alice@example.com"⟩, role := .user,
        password := instruments.hasher.hash (Vector.replicate 16 byte) clear }
    let fresh := countingSupply.piece 0
    let memory : UInt8 → Memory := fun byte =>
      ⟨⟨[(fresh.id, createdRow fresh (new byte))]⟩, countingSupply⟩
    let requests : List Http.Request :=
      [{ method := "POST", target := "/auth/login",
         headers := [("content-type", Text.utf8 "application/json")],
         body := Text.utf8 "\x7b\"username\":\"alice\",\"password\":\"secret1\"\x7d" },
       { method := "GET", target := "/auth/profile", headers := [], body := [] }]
    Http.responses instruments (memory 0) requests =
      Http.responses instruments (memory 1) requests := by
  intro signer instruments clear new fresh memory requests
  have reachable : (memory 0).table.Reachable :=
    ⟨instruments, countingSupply, [.call (.operation (.create (new 0)) : Call Unit)],
      by decide +kernel, rfl⟩
  have right : ∀ byte, (createdRow fresh (new byte)).password.verifies clear = true := by
    have fits : instruments.hasher.cost.Fits := ⟨by decide, by decide⟩
    exact fun byte => Password.verifies_hash instruments.hasher fits (Vector.replicate 16 byte) clear
  have hidden : ∀ byte, (createdRow fresh (new byte)).unhashed =
      { createdRow fresh (new 0) with password := ⟨""⟩ } := fun byte => by
    rw [User.unhashed, createdRow, createdRow]
  have alike : (memory 0).table.Alike (memory 1).table := by
    change List.Perm [(fresh.id, (createdRow fresh (new 0)).unhashed)]
      [(fresh.id, (createdRow fresh (new 1)).unhashed)]
    rw [hidden 0, hidden 1]
  have verdicts : Http.SameVerdicts instruments (memory 0) (memory 1) requests := by
    refine ⟨?_, ?_, trivial⟩
    · rintro input reads clear' accepted user stored user' stored' - - -
      obtain ⟨wire, read, rfl⟩ := reads.read
      have known : Http.readDocument Wire.Login.reader requests[0] = .ok ⟨"alice", "secret1"⟩ := by
        decide +kernel
      obtain rfl := Except.ok.inj (known.symm.trans read)
      obtain rfl : clear = clear' :=
        Except.ok.inj ((Password.ClearText.of_eq_ok.mpr rfl).symm.trans accepted)
      rw [List.mem_singleton.mp stored, List.mem_singleton.mp stored']
      exact (right 0).trans (right 1).symm
    · intro input reads
      have path : requests[1].path ≠ "/auth/login" := by decide +kernel
      exact absurd reads.path path
  exact (hashes_do_not_leak reachable alike rfl verdicts).1

end Accounts
