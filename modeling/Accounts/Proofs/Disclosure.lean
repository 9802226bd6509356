import Accounts.Proofs.Enrolment
import Accounts.Proofs.Service.FailClosed
import Accounts.Proofs.Token.Expiry

/-! A login succeeds with the password of a live row alone, and whoever is refused learns nothing of
the table: all refusals are one response. -/

namespace Accounts

open Service Store

theorem Password.ClearText.of_eq_ok {text : String} {clear : Password.ClearText} :
    Password.ClearText.of text = .ok clear ↔ clear.text = text := by
  unfold Password.ClearText.of
  constructor
  · intro accepted
    split at accepted
    · contradiction
    split at accepted
    · rw [← Except.ok.inj accepted]
    · contradiction
  · rintro rfl
    rw [dif_neg clear.nonempty, dif_pos clear.short]

theorem Password.ClearText.one_le_length (clear : Password.ClearText) : 1 ≤ clear.text.length := by
  apply Nat.one_le_iff_ne_zero.mpr
  simpa using clear.nonempty

namespace Store

def Table.Reachable (table : Table) : Prop :=
  ∃ instruments supply events, Event.AllIdsNew instruments ⟨Table.empty, supply⟩ events ∧
    (Event.after instruments ⟨Table.empty, supply⟩ events).table = table

theorem Table.Reachable.wellFormed {table : Table} (reachable : table.Reachable) :
    table.WellFormed := by
  obtain ⟨instruments, supply, events, idsNew, rfl⟩ := reachable
  exact Event.kept_wellFormed.after idsNew Table.wellFormed_empty

end Store

namespace Service

structure Opens (input : Login) (table : Table) (row : User) : Prop where
  long : 1 ≤ input.password.length
  short : input.password.length ≤ 128
  stored : row ∈ table.users
  live : row.isDeleted = false
  named : row.username.text = input.username
  verified : ∃ clear : Password.ClearText, clear.text = input.password ∧
    row.password.verifies clear = true

/-- Whether a session speaks for a user from an instant on: it shows the user as stored, and its token
carries the id, the name and the role of the user and is taken, until it expires, by whoever has the
secret. -/
structure SpeaksFor (signer : Token.Signer) (user : User) (now : Time.Instant)
    (session : Session) : Prop where
  shown : session.user = user.view
  signed : session.token = signer.sign (claimsAt signer user now)
  carries : Token.Signer.Carries session.token (claimsAt signer user now)
  validates : ∀ other : Token.Signer, other.secret = signer.secret → ∀ second : Int, 0 ≤ second →
    second ≤ now.second + signer.expirySeconds →
    other.validate second session.token = .ok (claimsAt signer user now)

variable (instruments : Instruments) (memory : Memory)

def loginClock : Time.Instant := memory.supply.next.2.next.1.now

def loginOn (input : Login) : Except Failure Session × Memory :=
  (Backend.ofMemory instruments.hasher).run (login instruments.signer input) memory

/-- What a login comes to: a session that speaks for the row that the name and the password open, and
one and the same failure if they open none. -/
structure Decides (input : Login) : Prop where
  succeeds_iff : (loginOn instruments memory input).1.isOk = true ↔
    ∃ row, Opens input memory.table row
  granted : ∀ row, Opens input memory.table row → ∃ session,
    (loginOn instruments memory input).1 = .ok session ∧
    SpeaksFor instruments.signer row (loginClock memory) session
  refused : (loginOn instruments memory input).1.isOk = false →
    (loginOn instruments memory input).1 = .error .invalidCredentials
  unchanged : (loginOn instruments memory input).2.table = memory.table

variable {instruments memory} {input : Login} {row : User}

theorem Opens.found (opens : Opens input memory.table row)
    (wellFormed : memory.table.WellFormed) :
    memory.table.find (fun user => user.username.text == input.username) = .ok row := by
  apply Table.find_eq_ok opens.stored opens.live
  · simp [opens.named]
  · intro other member named
    apply Table.eq_of_same_text wellFormed.usernames member opens.stored
    rw [opens.named]
    exact eq_of_beq named

theorem IssuedTo.speaksFor {signer : Token.Signer} {now : Time.Instant} {session : Session}
    (issued : IssuedTo signer row now session) : SpeaksFor signer row now session where
  shown := issued.user
  signed := issued.signed
  carries := issued.signed ▸ signer.carries_sign issued.fits
  validates := fun _ secret _ => issued.validates secret

theorem Opens.granted (opens : Opens input memory.table row)
    (wellFormed : memory.table.WellFormed)
    (inTime : ((loginClock memory).later? instruments.signer.expirySeconds).isSome) :
    ∃ session, (loginOn instruments memory input).1 = .ok session ∧
      SpeaksFor instruments.signer row (loginClock memory) session := by
  obtain ⟨clear, text, verified⟩ := opens.verified
  have accepted := Password.ClearText.of_eq_ok.mpr text
  obtain ⟨session, came, issued⟩ := Backend.run_login_inTime instruments.hasher accepted
    (opens.found wellFormed) verified inTime
  exact ⟨session, came, issued.speaksFor⟩

theorem opens_of_verifies {clear : Password.ClearText} {table : Table}
    (accepted : Password.ClearText.of input.password = .ok clear)
    (stored : row ∈ table.users) (live : row.isDeleted = false)
    (named : row.username.text = input.username) (verified : row.password.verifies clear = true) :
    Opens input table row := by
  have text := Password.ClearText.of_eq_ok.mp accepted
  have long : 1 ≤ input.password.length := text ▸ clear.one_le_length
  have short : input.password.length ≤ 128 := text ▸ clear.short
  exact ⟨long, short, stored, live, named, clear, text, verified⟩

theorem loginOn_refused (refused : ¬ ∃ row, Opens input memory.table row) :
    (loginOn instruments memory input).1 = .error .invalidCredentials := by
  have logsIn := run_login_logsIn instruments.signer input
    (Backend.ofMemory instruments.hasher) memory
  have searched := Backend.perform_findByUsername_cases instruments.hasher memory input.username
  unfold loginOn
  generalize ((Backend.ofMemory instruments.hasher).run
    (login instruments.signer input) memory).1 = result at logsIn ⊢
  cases logsIn with
  | weak _ => rfl
  | absent _ _ => rfl
  | wrong _ _ _ => rfl
  | unanswered _ failed other =>
      rcases searched with ⟨row, -, -, -, found⟩ | absent
      · rw [found] at failed
        contradiction
      · rw [absent] at failed
        exact absurd (Except.error.inj failed).symm other
  | right accepted found right _ =>
      rcases searched with ⟨row, stored, live, named, same⟩ | absent
      · obtain rfl := Except.ok.inj (same.symm.trans found)
        exact absurd ⟨_, opens_of_verifies accepted stored live named right⟩ refused
      · rw [absent] at found
        contradiction

theorem loginOn_table (instruments : Instruments) (memory : Memory) (input : Login) :
    (loginOn instruments memory input).2.table = memory.table :=
  Backend.table_run instruments.hasher memory (login_only instruments.signer input)

theorem decides (wellFormed : memory.table.WellFormed)
    (inTime : ((loginClock memory).later? instruments.signer.expirySeconds).isSome)
    (input : Login) : Decides instruments memory input := by
  have granted : ∀ row, Opens input memory.table row → ∃ session,
      (loginOn instruments memory input).1 = .ok session ∧
        SpeaksFor instruments.signer row (loginClock memory) session :=
    fun row opens => opens.granted wellFormed inTime
  have succeeds_iff : (loginOn instruments memory input).1.isOk = true ↔
      ∃ row, Opens input memory.table row := by
    constructor
    · intro succeeds
      by_contra refused
      rw [loginOn_refused refused] at succeeds
      contradiction
    · rintro ⟨row, opens⟩
      obtain ⟨session, came, -⟩ := granted row opens
      rw [came]
      rfl
  refine ⟨succeeds_iff, granted, ?_, loginOn_table instruments memory input⟩
  intro fails
  apply loginOn_refused
  intro opens
  rw [succeeds_iff.mpr opens] at fails
  contradiction

end Service

theorem Enrolled.opens {input : Registration} {row : User} {table : Table}
    (enrolled : Enrolled input row table) : Opens ⟨input.username, input.password⟩ table row := by
  obtain ⟨clear, accepted, verified⟩ := enrolled.password
  exact opens_of_verifies accepted (Table.mem_users_of_get? enrolled.stored) enrolled.live
    enrolled.username verified

/-! Logins over HTTP. -/

namespace Http

variable {instruments : Instruments} {memory : Memory} {request : Request}

structure ReadsLogin (request : Request) (input : Login) : Prop where
  path : request.path = "/auth/login"
  method : request.method = "POST"
  read : ∃ wire, readDocument Wire.Login.reader request = .ok wire ∧
    input = ⟨wire.username, wire.password⟩

theorem ReadsLogin.exchange {input : Login} (reads : ReadsLogin request input) :
    (Http.exchange instruments request memory).1 =
      respond 200 sessionDocument (loginOn instruments memory input).1 := by
  obtain ⟨wire, read, rfl⟩ := reads.read
  have path : request.path = Route.login.path := reads.path
  have notHead : request.method ≠ "HEAD" := by
    rw [reads.method]
    decide
  have allowed : Route.login.allows request.method = true := by
    rw [reads.method]
    decide
  have answered : answerOpen instruments.signer .login request = (do
      return respond 200 sessionDocument
        (← login instruments.signer ⟨wire.username, wire.password⟩)) := by
    unfold answerOpen
    rw [read]
  rw [exchange_of_path instruments path, exchangeAt_of_open instruments rfl, if_pos allowed,
    sent_of_allowed notHead allowed, answered, Backend.run, Program.run_bind]
  rfl

theorem ReadsLogin.exchange_refused {input : Login} (reads : ReadsLogin request input)
    (decided : Decides instruments memory input)
    (fails : (Http.exchange instruments request memory).1.status ≠ 200) :
    (Http.exchange instruments request memory).1 = failureResponse .invalidCredentials := by
  rw [reads.exchange] at fails ⊢
  have refused : (loginOn instruments memory input).1 = .error .invalidCredentials := by
    apply decided.refused
    cases came : (loginOn instruments memory input).1 with
    | error failure => rfl
    | ok session =>
        rw [came] at fails
        exact absurd rfl fails
  rw [refused]
  rfl

end Http

/-- A login on a table that can be reached is decided by the name and the password alone. They open a
row, for which the session speaks, or none; and all logins that are refused, on whatever tables and
for whatever reasons, get the same response. -/
theorem login_discloses_nothing {instruments instruments' : Instruments} {memory memory' : Memory}
    (reachable : memory.table.Reachable) (reachable' : memory'.table.Reachable)
    (inTime : ((loginClock memory).later? instruments.signer.expirySeconds).isSome)
    (inTime' : ((loginClock memory').later? instruments'.signer.expirySeconds).isSome) :
    (∀ input, Decides instruments memory input) ∧
    ∀ request request' input input',
      Http.ReadsLogin request input → Http.ReadsLogin request' input' →
      (Http.exchange instruments request memory).1.status ≠ 200 →
      (Http.exchange instruments' request' memory').1.status ≠ 200 →
      (Http.exchange instruments request memory).1 =
        (Http.exchange instruments' request' memory').1 := by
  have decided : ∀ input, Decides instruments memory input :=
    decides reachable.wellFormed inTime
  refine ⟨decided, ?_⟩
  intro request request' input input' reads reads' fails fails'
  have decided' := decides reachable'.wellFormed inTime' input'
  rw [reads.exchange_refused (decided input) fails, reads'.exchange_refused decided' fails']

/-- A user has registered here, and gets a session that names the user until the hour is over. There
the user has been deleted: no password here and the right one there are refused alike. -/
theorem login_discloses_nothing_deleted :
    let signer : Token.Signer := ⟨"key", 1, by decide, by decide, by decide⟩
    let instruments : Instruments := ⟨signer, ⟨⟨8, 1, 1⟩, rfl⟩⟩
    let start : Memory := ⟨Table.empty, countingSupply⟩
    let input : Registration := ⟨"alice", "alice@example.com", "secret1"⟩
    let deletion : Event := .call (.operation (.delete (countingSupply.piece 3).id) : Call Unit)
    let memory := Event.after instruments start [.visit (.register input)]
    let memory' := Event.after instruments start [.visit (.register input), deletion]
    let posted : String → Http.Request := fun body =>
      { method := "POST", target := "/auth/login",
        headers := [("content-type", Text.utf8 "application/json")], body := Text.utf8 body }
    let request := posted "\x7b\"username\":\"alice\",\"password\":\"\"\x7d"
    let request' := posted "\x7b\"username\":\"alice\",\"password\":\"secret1\"\x7d"
    (loginOn instruments memory ⟨"alice", "secret1"⟩).1.isOk = true ∧
    (∃ session, (loginOn instruments memory ⟨"alice", "secret1"⟩).1 = .ok session ∧
      signer.validate 3600 session.token =
        .ok ⟨(countingSupply.piece 3).id.render, "alice", "user", 0, 3600⟩) ∧
    (loginOn instruments memory' ⟨"alice", "secret1"⟩).1 = .error .invalidCredentials ∧
    (Http.exchange instruments request memory).1 =
      (Http.exchange instruments request' memory').1 := by
  intro signer instruments start input deletion memory memory' posted request request'
  have reachable : memory.table.Reachable :=
    ⟨instruments, countingSupply, [.visit (.register input)], by decide +kernel, rfl⟩
  have reachable' : memory'.table.Reachable :=
    ⟨instruments, countingSupply, [.visit (.register input), deletion], by decide +kernel, rfl⟩
  have inTime : ((loginClock memory).later? instruments.signer.expirySeconds).isSome := by
    decide +kernel
  have inTime' : ((loginClock memory').later? instruments.signer.expirySeconds).isSome := by
    decide +kernel
  obtain ⟨decided, alike⟩ := login_discloses_nothing reachable reachable' inTime inTime'
  obtain ⟨decided', -⟩ := login_discloses_nothing reachable' reachable inTime' inTime
  -- The row of the registration is known to have the password without hashing it again.
  have fits : instruments.hasher.cost.Fits := ⟨by decide, by decide⟩
  have accepted : ((Backend.ofMemory instruments.hasher).run
      (register instruments.signer input) start).1.isOk = true := by
    decide +kernel
  obtain ⟨out, registered⟩ := exists_of_isOk accepted
  obtain ⟨row, now, -, enrolled⟩ := Enrolled.of_register fits reachable.wellFormed registered
  have opens : Opens ⟨"alice", "secret1"⟩ memory.table row := enrolled.opens
  refine ⟨(decided _).succeeds_iff.mpr ⟨row, opens⟩, ?_, ?_, ?_⟩
  · obtain ⟨session, came, speaks⟩ := (decided _).granted row opens
    refine ⟨session, came, ?_⟩
    have rows : memory.table.users.map User.id = [(countingSupply.piece 3).id] := by
      decide +kernel
    have id : row.id = (countingSupply.piece 3).id := by
      simpa [rows] using List.mem_map_of_mem (f := User.id) opens.stored
    have clock : (loginClock memory).second = 0 := by decide +kernel
    have claims : claimsAt signer row (loginClock memory) =
        ⟨(countingSupply.piece 3).id.render, "alice", "user", 0, 3600⟩ := by
      rw [claimsAt, id, enrolled.username, enrolled.role, clock]
      rfl
    rw [← claims]
    apply speaks.validates signer rfl 3600 (by decide)
    rw [clock]
    decide
  · apply (decided' ⟨"alice", "secret1"⟩).refused
    decide +kernel
  · have reads : Http.ReadsLogin request ⟨"alice", ""⟩ :=
      ⟨by decide +kernel, rfl, ⟨"alice", ""⟩, by decide +kernel, rfl⟩
    have reads' : Http.ReadsLogin request' ⟨"alice", "secret1"⟩ :=
      ⟨by decide +kernel, rfl, ⟨"alice", "secret1"⟩, by decide +kernel, rfl⟩
    exact alike request request' _ _ reads reads' (by decide +kernel) (by decide +kernel)

end Accounts
