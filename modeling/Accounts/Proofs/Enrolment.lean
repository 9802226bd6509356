import Accounts.Proofs.Http.Api
import Accounts.Proofs.Http.Guard
import Accounts.Proofs.Password.Phc
import Accounts.Proofs.Service.Traffic
import Accounts.Proofs.Uuid

/-! Whoever has registered can log in and see the profile, whoever else visits in between. -/

namespace Accounts

open Service Store

theorem Service.readPassword_ok {password : String} {clear : Password.ClearText}
    (accepted : readPassword password = .ok clear) :
    Password.ClearText.of password = .ok clear := by
  unfold readPassword at accepted
  cases read : Password.ClearText.of password with
  | error error =>
      rw [read] at accepted
      contradiction
  | ok password =>
      rw [read] at accepted
      have same : (Except.ok password : Except Failure Password.ClearText) = .ok clear := accepted
      rw [Except.ok.inj same]

theorem Service.IssuedTo.authenticates {signer other : Token.Signer} {user : User}
    {now : Time.Instant} {session : Session} (issued : IssuedTo signer user now session)
    (secret : other.secret = signer.secret) {second : Int} (notBefore : 0 ≤ second)
    (inTime : second ≤ now.second + signer.expirySeconds) {request : Http.Request}
    (presented : request.header? "authorization" = some (Http.bearerValue session.token)) :
    Http.authenticate other second request = .ok (claimsAt signer user now) := by
  refine Http.authenticate_eq_ok.mpr
    ⟨session.token, ?_, issued.validates secret notBefore inTime⟩
  rw [presented, Option.bind_some, issued.signed]
  exact Http.bearerToken?_sign signer _

variable {instruments : Instruments} {memory : Memory}

theorem Service.Event.visits_grow {visits : List Visit}
    (idsNew : Event.AllIdsNew instruments memory (visits.map .visit)) :
    memory.table.Grows (fun _ => True)
      (Event.after instruments memory (visits.map .visit)).table := by
  induction visits generalizing memory with
  | nil => exact Table.Grows.refl memory.table
  | cons made visits ih =>
      have first := Backend.grows_run instruments.hasher
        (made.useCase_only instruments.signer) idsNew.1
      exact first.trans (ih idsNew.2)

structure Enrolled (input : Registration) (row : User) (table : Table) : Prop where
  wellFormed : table.WellFormed
  stored : table.get? row.id = some row
  live : row.isDeleted = false
  username : row.username.text = input.username
  email : row.email.text = Email.normalize input.email
  role : row.role = .user
  password : ∃ clear, Password.ClearText.of input.password = .ok clear ∧
    row.password.verifies clear = true

namespace Enrolled

variable {input : Registration} {row : User} {table : Table}

theorem visits (enrolled : Enrolled input row memory.table) {visits : List Visit}
    (idsNew : Event.AllIdsNew instruments memory (visits.map .visit)) :
    Enrolled input row (Event.after instruments memory (visits.map .visit)).table :=
  { enrolled with
    wellFormed := Event.kept_wellFormed.after idsNew enrolled.wellFormed
    stored := (Event.visits_grow idsNew).get? enrolled.stored }

theorem findById (enrolled : Enrolled input row table) :
    table.find (fun user => user.id == row.id) = .ok row :=
  enrolled.wellFormed.find_id (Table.mem_users_of_get? enrolled.stored) enrolled.live

theorem findByUsername (enrolled : Enrolled input row table) :
    table.find (fun user => user.username.text == input.username) = .ok row := by
  have member := Table.mem_users_of_get? enrolled.stored
  apply Table.find_eq_ok member enrolled.live
  · rw [enrolled.username]
    exact beq_self_eq_true input.username
  · intro other other_member named
    rw [← enrolled.username] at named
    exact Table.eq_of_same_text enrolled.wellFormed.usernames other_member member
      (eq_of_beq named)

theorem of_register (fits : instruments.hasher.cost.Fits) {session : Session}
    (wellFormed : ((Backend.ofMemory instruments.hasher).run
      (register instruments.signer input) memory).2.table.WellFormed)
    (registered : ((Backend.ofMemory instruments.hasher).run
      (register instruments.signer input) memory).1 = .ok session) :
    ∃ row now, IssuedTo instruments.signer row now session ∧
      Enrolled input row ((Backend.ofMemory instruments.hasher).run
        (register instruments.signer input) memory).2.table := by
  obtain ⟨names, clear, salt, row, now, read, accepted, issued, made⟩ :=
    Backend.run_register_ok instruments.hasher registered
  obtain ⟨username, email, -⟩ := readNames_texts read
  have stored : ((Backend.ofMemory instruments.hasher).run
      (register instruments.signer input) memory).2.table.get? row.id = some row := by
    rw [made.stored, Table.get?_put, if_pos rfl]
  obtain ⟨fresh, rfl⟩ := made.created
  exact ⟨_, now, issued, wellFormed, stored, rfl, username, email, rfl, clear,
    readPassword_ok accepted, Password.verifies_hash instruments.hasher fits salt clear⟩

end Enrolled

variable (instruments)

/-- What a session is worth at some memory: its token names the user up to the second at which it
expires, and whoever presents it sees the user's profile. -/
structure Serves (username : String) (session : Session) (memory : Memory)
    (claims : Token.Claims) : Prop where
  userId : Uuid.parse? claims.userId = some session.user.id
  username : claims.username = username
  role : claims.role = "user"
  exp : claims.exp = claims.iat + instruments.signer.expirySeconds
  validates : ∀ second, 0 ≤ second → second ≤ claims.exp →
    instruments.signer.validate second session.token = .ok claims
  profile : ∃ user, ((Backend.ofMemory instruments.hasher).run
    (Service.profile session.user.id) memory).1 = .ok user ∧ user.view = session.user
  page : ∀ request : Http.Request, request.path = "/auth/profile" → request.method = "GET" →
    request.header? "authorization" = some (Http.bearerValue session.token) →
    0 ≤ memory.supply.next.1.now.second → memory.supply.next.1.now.second ≤ claims.exp →
    (Http.exchange instruments request memory).1 =
      .ofDocument 200 (Wire.Profile.ofView session.user).document

variable {instruments}

theorem Enrolled.serves {input : Registration} {row : User} {now : Time.Instant}
    {session : Session} (enrolled : Enrolled input row memory.table)
    (issued : IssuedTo instruments.signer row now session) :
    ∃ claims, Serves instruments input.username session memory claims := by
  refine ⟨claimsAt instruments.signer row now, ?_, enrolled.username, ?_, rfl,
    fun second => issued.validates rfl, ?_, ?_⟩
  · rw [issued.user]
    exact Uuid.parse?_render row.id
  · exact congrArg Role.code enrolled.role
  · rw [issued.user]
    exact ⟨row, enrolled.findById, rfl⟩
  · intro request path method presented notBefore inTime
    have authentic := issued.authenticates rfl notBefore inTime presented
    have allowed : Http.Route.profile.allows request.method = true := by
      rw [method]
      decide
    rw [Http.exchange_profile instruments path allowed authentic (Uuid.parse?_render row.id),
      enrolled.findById, Http.sent_of_get method allowed, issued.user]
    rfl

/-- A login with the name and the password of a registration succeeds, unless the clock shows so
late a time that no session can expire any more. -/
theorem Enrolled.login {input : Registration} {row : User}
    (enrolled : Enrolled input row memory.table) :
    let clock := memory.supply.next.2.next.1.now
    let result := ((Backend.ofMemory instruments.hasher).run
      (login instruments.signer ⟨input.username, input.password⟩) memory).1
    ((clock.later? instruments.signer.expirySeconds).isSome →
      ∃ session now, result = .ok session ∧ IssuedTo instruments.signer row now session) ∧
    (clock.later? instruments.signer.expirySeconds = none →
      result = .error (Failure.ofToken (.invalidExpiry instruments.signer.expiryHours))) := by
  intro clock result
  obtain ⟨clear, accepted, verified⟩ := enrolled.password
  constructor
  · intro inRange
    let credentials : Login := ⟨input.username, input.password⟩
    have found : memory.table.find (fun user => user.username.text == credentials.username) =
        .ok row := enrolled.findByUsername
    obtain ⟨session, came, issued⟩ :=
      Backend.run_login_inTime instruments.hasher accepted found verified inRange
    exact ⟨session, clock, came, issued⟩
  · intro outOfRange
    let searched : Memory := ⟨memory.table, memory.supply.next.2⟩
    have ran : result = ((Backend.ofMemory instruments.hasher).run
        (.ask .now (afterNow instruments.signer row)) searched).1 :=
      congrArg Prod.fst
        (Backend.run_login_of_found instruments.hasher accepted enrolled.findByUsername verified)
    exact ran.trans (Backend.run_afterNow_late instruments.hasher searched row outOfRange)

/-- Whoever has registered, on whatever table, can log in with the same name and password after any
visits of anyone, and both tokens serve their owner after any further visits. A clock that shows so
late a time that no session can expire any more is the one thing that stands in the way of a
login. -/
theorem registered_users_can_log_in (fits : instruments.hasher.cost.Fits) (supply : Supply)
    (earlier : List Event) (input : Registration) (later beyond : List Visit) (out : Session)
    (idsNew : Event.AllIdsNew instruments ⟨Table.empty, supply⟩
      (earlier ++ .visit (.register input) ::
        (later ++ .login ⟨input.username, input.password⟩ :: beyond).map .visit))
    (registered : ((Backend.ofMemory instruments.hasher).run
      (register instruments.signer input)
      (Event.after instruments ⟨Table.empty, supply⟩ earlier)).1 = .ok out) :
    let memory := Event.after instruments ⟨Table.empty, supply⟩
      (earlier ++ .visit (.register input) :: later.map .visit)
    let final := Event.after instruments memory
      ((.login ⟨input.username, input.password⟩ :: beyond).map .visit)
    let clock := memory.supply.next.2.next.1.now
    let result := ((Backend.ofMemory instruments.hasher).run
      (login instruments.signer ⟨input.username, input.password⟩) memory).1
    out.user.email.text = Email.normalize input.email ∧
    (∃ claims, Serves instruments input.username out final claims) ∧
    ((clock.later? instruments.signer.expirySeconds).isSome →
      ∃ out2, result = .ok out2 ∧ out2.user = out.user ∧
        ∃ claims, Serves instruments input.username out2 final claims) ∧
    (clock.later? instruments.signer.expirySeconds = none →
      result = .error (Failure.ofToken (.invalidExpiry instruments.signer.expiryHours))) := by
  intro memory final clock result
  obtain ⟨early, here, late⟩ := Event.allIdsNew_append.mp idsNew
  rw [List.map_append] at late
  obtain ⟨between, last⟩ := Event.allIdsNew_append.mp late
  have wellFormed := Event.kept_wellFormed.after early Table.wellFormed_empty
  have wellFormed_after := Event.kept_wellFormed.met here wellFormed _ (Event.execute_mem_met _)
  -- One row is carried all along: from the registration to the login, and from there to the end.
  obtain ⟨row, now, issued, enrolled⟩ := Enrolled.of_register fits wellFormed_after registered
  have reached : memory = Event.after instruments ((Backend.ofMemory instruments.hasher).run
      (register instruments.signer input)
      (Event.after instruments ⟨Table.empty, supply⟩ earlier)).2 (later.map .visit) :=
    Event.after_append earlier _
  have enrolled_memory : Enrolled input row memory.table := reached ▸ enrolled.visits between
  have last_new : Event.AllIdsNew instruments memory
      ((.login ⟨input.username, input.password⟩ :: beyond).map .visit) := reached ▸ last
  have enrolled_final : Enrolled input row final.table := enrolled_memory.visits last_new
  obtain ⟨succeeds, fails⟩ := enrolled_memory.login
  refine ⟨?_, enrolled_final.serves issued, ?_, fails⟩
  · rw [issued.user]
    exact enrolled.email
  · intro inRange
    obtain ⟨out2, moment, ran, again⟩ := succeeds inRange
    exact ⟨out2, ran, again.user.trans issued.user.symm, enrolled_final.serves again⟩

/-- A user registers with capitals and blanks in the address and logs in at once. -/
theorem registered_users_can_log_in_at_once :
    let signer : Token.Signer := ⟨"key", 1, by decide, by decide, by decide⟩
    let instruments : Instruments := ⟨signer, ⟨⟨8, 1, 1⟩, rfl⟩⟩
    let start : Memory := ⟨Table.empty, countingSupply⟩
    let input : Registration := ⟨"alice", " Alice@Example.com ", "secret1"⟩
    let memory := Event.after instruments start [.visit (.register input)]
    instruments.hasher.cost.Fits ∧
    Event.AllIdsNew instruments start
      [.visit (.register input), .visit (.login ⟨"alice", "secret1"⟩)] ∧
    ∃ out out2, ((Backend.ofMemory instruments.hasher).run
        (register instruments.signer input) start).1 = .ok out ∧
      out.user.email.text = "alice@example.com" ∧
      ((Backend.ofMemory instruments.hasher).run
        (login instruments.signer ⟨"alice", "secret1"⟩) memory).1 = .ok out2 ∧
      out2.user = out.user := by
  intro signer instruments start input memory
  have fits : instruments.hasher.cost.Fits := ⟨by decide, by decide⟩
  have idsNew : Event.AllIdsNew instruments start
      [.visit (.register input), .visit (.login ⟨"alice", "secret1"⟩)] := by
    have first : Event.AllIdsNew instruments start [.visit (.register input)] := by
      decide +kernel
    have second : Event.IdsNew instruments memory (.visit (.login ⟨"alice", "secret1"⟩)) :=
      Backend.login_idsNew instruments.hasher signer ⟨"alice", "secret1"⟩ memory
    exact ⟨first.1, second, trivial⟩
  have accepted : ((Backend.ofMemory instruments.hasher).run
      (register instruments.signer input) start).1.isOk = true := by
    decide +kernel
  obtain ⟨out, registered⟩ := exists_of_isOk accepted
  have result :=
    registered_users_can_log_in fits countingSupply [] input [] [] out idsNew registered
  obtain ⟨email, -, succeeds, -⟩ := result
  have normal : Email.normalize input.email = "alice@example.com" := by decide +kernel
  obtain ⟨out2, ran, same, -⟩ := succeeds (by decide +kernel)
  exact ⟨fits, idsNew, out, out2, registered, email.trans normal, ran, same⟩

end Accounts
