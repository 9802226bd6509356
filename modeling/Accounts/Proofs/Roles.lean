import Accounts.Proofs.Enrolment
import Accounts.Store.Sql

/-! The rights of a role survive the texts that stand for it in rows and in tokens, unless the role
has the code of administrators without being theirs. -/

namespace Accounts

open Service Store

theorem Role.isAdmin_ofCode_code {role : Role} (apart : role ≠ .other "admin") :
    (Role.ofCode role.code).isAdmin = role.isAdmin := by
  rw [Bool.eq_iff_iff, Http.isAdmin_ofCode]
  cases role with
  | user => decide
  | admin => decide
  | other code =>
      refine iff_of_false ?_ Bool.false_ne_true
      rintro rfl
      exact apart rfl

/-! Rows. -/

def Store.Statement.Writes : Statement → Row → Prop
  | .insert username email hash role, row =>
    row.username = username ∧ row.email = email ∧ row.passwordHash = hash ∧ row.role = role
  | .update id username email hash role, row =>
    row.userId = id ∧ row.username = username ∧ row.email = email ∧ row.passwordHash = hash ∧
      row.role = role
  | _, _ => False

def Store.Row.Keeps (row : Row) (role : Role) : Prop :=
  ∃ user, row.user = .ok user ∧ user.role.isAdmin = role.isAdmin

theorem Store.Row.user_of_hash {row : Row} {hashed : Password.Hashed}
    (read : Password.Hashed.of row.passwordHash = .ok hashed) :
    ∃ user, row.user = .ok user ∧ user.role = Role.ofCode row.role := by
  rw [Row.user, read]
  exact ⟨_, rfl, rfl⟩

theorem Store.Row.keeps_of_code {row : Row} {role : Role} (apart : role ≠ .other "admin")
    (code : row.role = role.code) (hash : (Password.Hashed.of row.passwordHash).isOk = true) :
    row.Keeps role := by
  obtain ⟨hashed, read⟩ := exists_of_isOk hash
  obtain ⟨user, same, kept⟩ := Row.user_of_hash read
  refine ⟨user, same, ?_⟩
  rw [kept, code]
  exact Role.isAdmin_ofCode_code apart

/-! Sessions. -/

/-- Whether whoever has a session passes the guard for administrators just if a role has their
rights, at a second and with a signer. -/
structure Service.Session.Grants (session : Session) (signer : Token.Signer) (second : Int)
    (role : Role) : Prop where
  claims : ∃ claims, signer.validate second session.token = .ok claims ∧
    (Http.requireAdmin (some claims)).isOk = role.isAdmin
  guards : ∀ request : Http.Request,
    request.header? "authorization" = some (Http.bearerValue session.token) →
    (Http.passGuards signer .adminTest second request).isOk = role.isAdmin

theorem Http.isOk_requireAdmin (claims : Token.Claims) :
    (Http.requireAdmin (some claims)).isOk = (Role.ofCode claims.role).isAdmin := by
  rw [Http.requireAdmin]
  cases (Role.ofCode claims.role).isAdmin with
  | true => rfl
  | false => rfl

theorem Service.issuedTo_of_run {σ : Type} {backend : Backend (StateM σ)} {state : σ}
    {signer : Token.Signer} {user : User} {session : Session}
    (issued : (backend.run (issueSession signer user) state).1 = .ok session) :
    IssuedTo signer user (backend.answer .now state).1 session := by
  have ran : (Program.run backend.answer
      (afterNow signer user (backend.answer .now state).1) (backend.answer .now state).2).1 =
        .ok session := issued
  obtain ⟨result, ended⟩ := afterNow_done signer user (backend.answer .now state).1
  rw [ended, Program.run_done] at ran
  obtain rfl : result = .ok session := ran
  exact afterNow_issuedTo ended

theorem Service.IssuedTo.grants {signer other : Token.Signer} {user : User} {now : Time.Instant}
    {session : Session} (issued : IssuedTo signer user now session)
    (apart : user.role ≠ .other "admin") (secret : other.secret = signer.secret) {second : Int}
    (notBefore : 0 ≤ second) (inTime : second ≤ now.second + signer.expirySeconds) :
    session.Grants other second user.role := by
  have passes : (Http.requireAdmin (some (claimsAt signer user now))).isOk = user.role.isAdmin := by
    rw [Http.isOk_requireAdmin]
    exact Role.isAdmin_ofCode_code apart
  refine ⟨⟨_, issued.validates secret notBefore inTime, passes⟩, ?_⟩
  intro request presented
  rw [Http.passGuards_adminTest (issued.authenticates secret notBefore inTime presented), passes]

/-- Rights survive. A session of a user passes the guard for administrators until it expires just if
the user's role has their rights, and a row that is written with a role is read with its rights. The
one role to which this does not apply has the code of administrators and not their rights. -/
theorem privilege_survives {role : Role} (apart : role ≠ .other "admin") :
    (∀ (user : User) (signer other : Token.Signer) (σ : Type) (backend : Backend (StateM σ))
        (state : σ) (session : Session) (second : Int),
      user.role = role → other.secret = signer.secret →
      (backend.run (issueSession signer user) state).1 = .ok session → 0 ≤ second →
      second ≤ (backend.answer .now state).1.second + signer.expirySeconds →
      session.Grants other second role) ∧
    (∀ (new : NewUser) (row : Row), new.role = role →
      (Operation.create new).statement.Writes row →
      (Password.Hashed.of new.password.phc).isOk = true → row.Keeps role) ∧
    (∀ (user : User) (row : Row), user.role = role →
      (Operation.update user).statement.Writes row →
      (Password.Hashed.of user.password.phc).isOk = true → row.Keeps role) := by
  refine ⟨?_, ?_, ?_⟩
  · rintro user signer other σ backend state session second rfl secret issued notBefore inTime
    exact (issuedTo_of_run issued).grants apart secret notBefore inTime
  · rintro new row rfl ⟨-, -, hash, code⟩ readable
    rw [← hash] at readable
    exact Row.keeps_of_code apart code readable
  · rintro user row rfl ⟨-, -, -, hash, code⟩ readable
    rw [← hash] at readable
    exact Row.keeps_of_code apart code readable

/-- A role whose code looks like that of administrators is kept apart from theirs. -/
theorem privilege_survives_capital :
    let signer : Token.Signer := ⟨"key", 1, by decide, by decide, by decide⟩
    let backend := Backend.ofMemory ⟨⟨8, 1, 1⟩, rfl⟩
    let memory : Memory := ⟨Table.empty, countingSupply⟩
    let new : NewUser := ⟨⟨"eve"⟩, ⟨"eve@example.com"⟩, ⟨"$argon2id"⟩, .other "Admin"⟩
    let user := createdRow (countingSupply.piece 0) new
    let row : Row :=
      ⟨user.id, "eve", "eve@example.com", "$argon2id", "Admin", user.createdAt, user.updatedAt, none⟩
    row.Keeps (.other "Admin") ∧ ∃ session,
      (backend.run (issueSession signer user) memory).1 = .ok session ∧
      session.Grants signer 3600 (.other "Admin") := by
  intro signer backend memory new user row
  have apart : Role.other "Admin" ≠ .other "admin" := by decide
  have readable : (Password.Hashed.of new.password.phc).isOk = true := by decide +kernel
  have runs : (backend.run (issueSession signer user) memory).1.isOk = true := by decide +kernel
  obtain ⟨session, issued⟩ := exists_of_isOk runs
  obtain ⟨sessions, created, -⟩ := privilege_survives apart
  exact ⟨created new row rfl ⟨rfl, rfl, rfl, rfl⟩ readable, session, issued,
    sessions user signer signer Memory backend memory session 3600 rfl rfl issued (by decide)
      (by decide +kernel)⟩

/-- A role that has the code of administrators and not their rights gains them in a session as well
as in a row. -/
theorem admin_code_gains_rights :
    let signer : Token.Signer := ⟨"key", 1, by decide, by decide, by decide⟩
    let backend := Backend.ofMemory ⟨⟨8, 1, 1⟩, rfl⟩
    let memory : Memory := ⟨Table.empty, countingSupply⟩
    let new : NewUser := ⟨⟨"eve"⟩, ⟨"eve@example.com"⟩, ⟨"$argon2id"⟩, .other "admin"⟩
    let user := createdRow (countingSupply.piece 0) new
    let row : Row :=
      ⟨user.id, "eve", "eve@example.com", "$argon2id", "admin", user.createdAt, user.updatedAt, none⟩
    user.role.isAdmin = false ∧
    (∃ session claims, (backend.run (issueSession signer user) memory).1 = .ok session ∧
      signer.validate 3600 session.token = .ok claims ∧
      (Http.requireAdmin (some claims)).isOk = true) ∧
    (Operation.create new).statement.Writes row ∧
    ∃ read, row.user = .ok read ∧ read.role.isAdmin = true := by
  intro signer backend memory new user row
  have runs : (backend.run (issueSession signer user) memory).1.isOk = true := by decide +kernel
  obtain ⟨session, issued⟩ := exists_of_isOk runs
  have valid : signer.validate 3600 session.token =
      .ok (claimsAt signer user (backend.answer .now memory).1) :=
    (issuedTo_of_run issued).validates rfl (by decide) (by decide +kernel)
  have hash : (Password.Hashed.of row.passwordHash).isOk = true := by decide +kernel
  obtain ⟨hashed, parsed⟩ := exists_of_isOk hash
  obtain ⟨read, same, role⟩ := Row.user_of_hash parsed
  refine ⟨rfl, ⟨session, _, issued, valid, ?_⟩, ⟨rfl, rfl, rfl, rfl⟩, read, same, ?_⟩
  · rw [Http.isOk_requireAdmin]
    exact Http.isAdmin_ofCode.mpr rfl
  · rw [role]
    exact Http.isAdmin_ofCode.mpr rfl

end Accounts
