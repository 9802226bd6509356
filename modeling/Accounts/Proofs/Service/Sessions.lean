import Accounts.Proofs.Service.Login
import Accounts.Proofs.Time.Instant
import Accounts.Proofs.Token.RoundTrip

/-! What a registration and a login on a store in memory come to: the session, the row it is issued
to, and the conditions under which there is one. -/

namespace Accounts

namespace Service

open Store

structure IssuedTo (signer : Token.Signer) (user : User) (now : Time.Instant) (session : Session) :
    Prop where
  token : signer.issue user.id.render user.username.text user.role.code now = .ok session.token
  user : session.user = user.view

variable {signer : Token.Signer}

def claimsAt (signer : Token.Signer) (user : User) (now : Time.Instant) : Token.Claims where
  userId := user.id.render
  username := user.username.text
  role := user.role.code
  iat := now.second
  exp := now.second + signer.expirySeconds

theorem IssuedTo.signed {user : User} {now : Time.Instant} {session : Session}
    (issued : IssuedTo signer user now session) :
    session.token = signer.sign (claimsAt signer user now) := by
  obtain ⟨expiry, later, token⟩ := Token.Signer.issue_eq_ok issued.token
  rw [token, claimsAt, Time.Instant.second_of_later? later]

theorem IssuedTo.fits {user : User} {now : Time.Instant} {session : Session}
    (issued : IssuedTo signer user now session) : (claimsAt signer user now).Fits := by
  obtain ⟨expiry, later, -⟩ := Token.Signer.issue_eq_ok issued.token
  rw [claimsAt, ← Time.Instant.second_of_later? later]
  exact Token.Signer.fits_of_instants _ _ _ now expiry

/-- Whoever has the secret reads the claims of a session until it expires. -/
theorem IssuedTo.validates {user : User} {now : Time.Instant} {session : Session}
    (issued : IssuedTo signer user now session) {other : Token.Signer}
    (secret : other.secret = signer.secret) {second : Int} (notBefore : 0 ≤ second)
    (inTime : second ≤ now.second + signer.expirySeconds) :
    other.validate second session.token = .ok (claimsAt signer user now) := by
  rw [issued.signed,
    Token.Signer.validate_sign issued.fits (Int.le_trans notBefore inTime) secret]
  exact if_pos inTime

theorem afterNow_issuedTo {user : User} {now : Time.Instant} {session : Session}
    (issued : afterNow signer user now = .done (.ok session)) :
    IssuedTo signer user now session := by
  unfold afterNow at issued
  cases token : signer.issue user.id.render user.username.text user.role.code now with
  | error error =>
      rw [token] at issued
      exact absurd (Program.done.inj issued) (by simp)
  | ok text =>
      rw [token] at issued
      obtain rfl := Except.ok.inj (Program.done.inj issued)
      exact ⟨token, rfl⟩

namespace Backend

variable (hasher : Password.Hasher) {memory : Memory}

theorem answer_now :
    (ofMemory hasher).answer .now memory =
      (memory.supply.next.1.now, ⟨memory.table, memory.supply.next.2⟩) := rfl

theorem run_ask {α : Type} (request : Request) (next : request.Reply → UseCase α) :
    (ofMemory hasher).run (.ask request next) memory =
      (ofMemory hasher).run (next ((ofMemory hasher).answer request memory).1)
        ((ofMemory hasher).answer request memory).2 := rfl

theorem run_done {α : Type} (value : α) :
    (ofMemory hasher).run (.done value) memory = (value, memory) := rfl

theorem run_afterNow_inTime (memory : Memory) (user : User)
    (inTime : (memory.supply.next.1.now.later? signer.expirySeconds).isSome) :
    ∃ session, ((ofMemory hasher).run (.ask .now (afterNow signer user)) memory).1 = .ok session ∧
      IssuedTo signer user memory.supply.next.1.now session := by
  obtain ⟨expiry, later⟩ := Option.isSome_iff_exists.mp inTime
  have issued : signer.issue user.id.render user.username.text user.role.code
      memory.supply.next.1.now = .ok (signer.sign
        { userId := user.id.render, username := user.username.text, role := user.role.code,
          iat := memory.supply.next.1.now.second, exp := expiry.second }) := by
    rw [Token.Signer.issue, later]
  refine ⟨⟨_, user.view⟩, ?_, issued, rfl⟩
  rw [run_ask, answer_now, afterNow, issued]
  rfl

theorem run_afterNow_late (memory : Memory) (user : User)
    (late : memory.supply.next.1.now.later? signer.expirySeconds = none) :
    ((ofMemory hasher).run (.ask .now (afterNow signer user)) memory).1 =
      .error (Failure.ofToken (.invalidExpiry signer.expiryHours)) := by
  rw [run_ask, answer_now, afterNow, Token.Signer.issue, late]
  rfl

theorem run_afterNow_ok {user : User} {session : Session}
    (ran : ((ofMemory hasher).run (.ask .now (afterNow signer user)) memory).1 = .ok session) :
    ∃ now, IssuedTo signer user now session := by
  rw [run_ask, answer_now] at ran
  obtain ⟨result, issued⟩ := afterNow_done signer user memory.supply.next.1.now
  rw [issued, run_done] at ran
  obtain rfl : result = .ok session := ran
  exact ⟨memory.supply.next.1.now, afterNow_issuedTo issued⟩

theorem table_afterNow (user : User) :
    ((ofMemory hasher).run (.ask .now (afterNow signer user)) memory).2.table = memory.table := by
  rw [run_ask, answer_now]
  obtain ⟨result, issued⟩ := afterNow_done signer user memory.supply.next.1.now
  rw [issued, run_done]

/-! Registrations. -/

structure Registered (names : UserName × Email) (hashed : Password.Hashed) (before after : Table)
    (row : User) : Prop where
  created : ∃ fresh, row =
    createdRow fresh { username := names.1, email := names.2, password := hashed, role := .user }
  free : before.checkUnique names.1.text names.2.text none = .ok ()
  stored : after = before.put row.id row

variable {session : Session}

theorem run_afterHash_ok {names : UserName × Email} {hashed : Password.Hashed}
    (ran : ((ofMemory hasher).run (afterHash signer names hashed) memory).1 = .ok session) :
    ∃ row now, IssuedTo signer row now session ∧ Registered names hashed memory.table
      ((ofMemory hasher).run (afterHash signer names hashed) memory).2.table row := by
  rw [afterHash, run_ask, answer_create] at ran ⊢
  rcases Table.create_cases memory.table memory.supply.next.1
      { username := names.1, email := names.2, password := hashed, role := .user } with
    ⟨failure, -, refused⟩ | ⟨free, created⟩
  · rw [refused] at ran
    contradiction
  · rw [created] at ran ⊢
    obtain ⟨now, issued⟩ := run_afterNow_ok hasher ran
    refine ⟨_, now, issued, ⟨memory.supply.next.1, rfl⟩, free, ?_⟩
    exact table_afterNow hasher _

theorem run_afterEmail_ok {names : UserName × Email} {password : String}
    {search : Except Failure User}
    (ran : ((ofMemory hasher).run (afterEmail signer names password search) memory).1 =
      .ok session) :
    ∃ clear salt row now, readPassword password = .ok clear ∧ IssuedTo signer row now session ∧
      Registered names (hasher.hash salt clear) memory.table
        ((ofMemory hasher).run (afterEmail signer names password search) memory).2.table row := by
  revert ran
  unfold afterEmail
  cases ensureAbsent search .emailTaken with
  | error failure => nofun
  | ok free =>
      cases readPassword password with
      | error failure => nofun
      | ok clear =>
          intro ran
          simp only [run_ask] at ran ⊢
          obtain ⟨row, now, issued, registered⟩ := run_afterHash_ok hasher ran
          exact ⟨clear, memory.supply.next.1.salt, row, now, rfl, issued, registered⟩

theorem run_register_ok {input : Registration}
    (ran : ((ofMemory hasher).run (register signer input) memory).1 = .ok session) :
    ∃ names clear salt row now,
      readNames input.username input.email = .ok names ∧
      readPassword input.password = .ok clear ∧
      IssuedTo signer row now session ∧
      Registered names (hasher.hash salt clear) memory.table
        ((ofMemory hasher).run (register signer input) memory).2.table row := by
  revert ran
  rw [register_eq]
  cases readNames input.username input.email with
  | error failure => nofun
  | ok names =>
      simp only [run_ask]
      unfold afterUsername
      cases ensureAbsent ((ofMemory hasher).answer
          (.perform (.findByUsername names.1.text)) memory).1 .usernameTaken with
      | error failure => nofun
      | ok free =>
          intro ran
          simp only [run_ask] at ran ⊢
          obtain ⟨clear, salt, row, now, accepted, issued, registered⟩ :=
            run_afterEmail_ok hasher ran
          exact ⟨names, clear, salt, row, now, rfl, accepted, issued, registered⟩

/-! Logins. -/

section Searched

variable {input : Login} {clear : Password.ClearText}
  (read : Password.ClearText.of input.password = .ok clear)

include read

theorem run_login_searched :
    (ofMemory hasher).run (login signer input) memory =
      (ofMemory hasher).run
        (afterFound signer clear (memory.table.find fun user => user.username.text == input.username))
        ⟨memory.table, memory.supply.next.2⟩ := by
  rw [login_eq, read, run_ask]
  rfl

theorem run_login_found {user : User}
    (found : memory.table.find (fun user => user.username.text == input.username) = .ok user) :
    (ofMemory hasher).run (login signer input) memory =
      (ofMemory hasher).run (afterVerified signer (some user) (user.password.verifies clear))
        ⟨memory.table, memory.supply.next.2⟩ := by
  rw [run_login_searched hasher read, found]
  rfl

theorem run_login_of_found {user : User}
    (found : memory.table.find (fun user => user.username.text == input.username) = .ok user)
    (verified : user.password.verifies clear = true) :
    (ofMemory hasher).run (login signer input) memory =
      (ofMemory hasher).run (.ask .now (afterNow signer user))
        ⟨memory.table, memory.supply.next.2⟩ := by
  rw [run_login_found hasher read found, verified]
  rfl

theorem run_login_inTime {user : User}
    (found : memory.table.find (fun user => user.username.text == input.username) = .ok user)
    (verified : user.password.verifies clear = true)
    (inTime : (memory.supply.next.2.next.1.now.later? signer.expirySeconds).isSome) :
    ∃ session, ((ofMemory hasher).run (login signer input) memory).1 = .ok session ∧
      IssuedTo signer user memory.supply.next.2.next.1.now session := by
  rw [run_login_of_found hasher read found verified]
  exact run_afterNow_inTime hasher ⟨memory.table, memory.supply.next.2⟩ user inTime

theorem run_login_unknown
    (absent : memory.table.find (fun user => user.username.text == input.username) =
      .error .userNotFound) :
    (ofMemory hasher).run (login signer input) memory =
      (.error .invalidCredentials, ⟨memory.table, memory.supply.next.2⟩) := by
  rw [run_login_searched hasher read, absent]
  rfl

end Searched

theorem run_login_of_absent {input : Login}
    (absent : memory.table.find (fun user => user.username.text == input.username) =
      .error .userNotFound) :
    ((ofMemory hasher).run (login signer input) memory).1 = .error .invalidCredentials := by
  cases read : Password.ClearText.of input.password with
  | error error =>
      rw [login_eq, read]
      rfl
  | ok clear => rw [run_login_unknown hasher read absent]

theorem perform_findByUsername_cases (memory : Memory) (username : String) :
    (∃ row ∈ memory.table.users, row.isDeleted = false ∧ row.username.text = username ∧
      ((ofMemory hasher).perform (.findByUsername username) memory).1 = .ok row) ∨
    ((ofMemory hasher).perform (.findByUsername username) memory).1 = .error .userNotFound := by
  rcases memory.table.find_cases fun user => user.username.text == username with
    ⟨row, stored, live, named, found⟩ | ⟨-, absent⟩
  · exact .inl ⟨row, stored, live, eq_of_beq named, found⟩
  · exact .inr absent

theorem run_login_ok {input : Login}
    (ran : ((ofMemory hasher).run (login signer input) memory).1 = .ok session) :
    ∃ clear user now, Password.ClearText.of input.password = .ok clear ∧
      user ∈ memory.table.users ∧ user.isDeleted = false ∧ user.username.text = input.username ∧
      user.password.verifies clear = true ∧ IssuedTo signer user now session := by
  have logsIn := run_login_logsIn signer input (ofMemory hasher) memory
  rw [ran] at logsIn
  cases logsIn with
  | right accepted found verified issued =>
      rcases perform_findByUsername_cases hasher memory input.username with
        ⟨row, stored, live, named, same⟩ | absent
      · obtain rfl := Except.ok.inj (same.symm.trans found)
        exact ⟨_, _, _, accepted, stored, live, named, verified, afterNow_issuedTo issued⟩
      · rw [absent] at found
        contradiction

end Backend

end Service

end Accounts
