import Accounts.Proofs.Http.Api

/-! Nobody becomes an administrator over HTTP. Requests add users without rights and nothing else,
the tokens they are answered with carry the role of a row whose password was given, and the route
for administrators is open to such tokens alone. -/

namespace Accounts.Http

open Service Store Json Text

variable {request : Request} {memory : Memory}

/-! Tokens in responses. -/

def Response.Returns (response : Response) (token : String) : Prop :=
  ∃ user, response.body = (Wire.Session.mk token user).document.render

theorem render_record (key : String) (value : Value) (entries : List (String × Value)) :
    ∃ rest, (Value.record ((key, value) :: entries)).render.toList =
      '{' :: printText key ++ rest := by
  rw [Value.render, String.toList_ofList, Value.print]
  cases entries with
  | nil =>
      refine ⟨':' :: value.print ++ ['}'], ?_⟩
      rw [printMembers]
      simp
  | cons entry entries =>
      refine ⟨':' :: value.print ++ ',' :: printMembers (entry :: entries) ++ ['}'], ?_⟩
      rw [printMembers]
      · simp
      · simp

def sessionMark : List Char := ['{', '"', 't', 'o']

theorem take_record {key : String} (value : Value) (entries : List (String × Value))
    (long : 4 ≤ ('{' :: printText key).length) :
    (Value.record ((key, value) :: entries)).render.toList.take 4 =
      ('{' :: printText key).take 4 := by
  obtain ⟨rest, rendered⟩ := render_record key value entries
  rw [rendered, List.take_append_of_le_length long]

theorem Response.Returns.mark {response : Response} {token : String}
    (returns : response.Returns token) : response.body.toList.take 4 = sessionMark := by
  obtain ⟨user, body⟩ := returns
  rw [body]
  exact take_record _ _ (by decide)

theorem not_returns_text {status : Nat} {body token : String}
    (other : body.toList.take 4 ≠ sessionMark) : ¬ (Response.ofText status body).Returns token :=
  fun returns => other returns.mark

theorem not_returns_record {status : Nat} {key token : String} {value : Value}
    {entries : List (String × Value)} (long : 4 ≤ ('{' :: printText key).length)
    (other : ('{' :: printText key).take 4 ≠ sessionMark) :
    ¬ (Response.ofDocument status (.record ((key, value) :: entries))).Returns token := by
  intro returns
  exact other ((take_record value entries long).symm.trans returns.mark)

theorem not_returns_bare {status : Nat} {token : String} :
    ¬ (Response.bare status).Returns token := by
  intro returns
  have mark := returns.mark
  contradiction

theorem not_returns_failure (failure : Failure) (token : String) :
    ¬ (failureResponse failure).Returns token :=
  not_returns_record (by decide) (by decide)

theorem token_eq_of_render_eq {token token' : String} {user user' : Wire.Profile}
    (same : (Wire.Session.mk token user).document.render =
      (Wire.Session.mk token' user').document.render) : token = token' := by
  -- Both tokens are what is read at the same place of the same text.
  have bytes : ∀ (token : String) (user : Wire.Profile), ∃ rest,
      utf8 (Wire.Session.mk token user).document.render =
        0x7B :: 0x22 :: textTail "token" ++ 0x3A :: 0x22 :: (textTail token ++ rest) := by
    intro token user
    refine ⟨entriesBytes false [("user", user.document)], ?_⟩
    rw [utf8_render, Wire.Session.document, bytes_record, entriesBytes]
    have spelled : (Value.text token).bytes = 0x22 :: textTail token := rfl
    simp [spelled]
  obtain ⟨rest, first⟩ := bytes token user
  obtain ⟨rest', second⟩ := bytes token' user'
  rw [same, second] at first
  have tails := List.append_cancel_left first
  simp only [List.cons.injEq, true_and] at tails
  have read := stringTail_print token' rest'
  rw [tails, stringTail_print] at read
  exact (Prod.mk.inj (Except.ok.inj read)).1

variable (instruments : Instruments)

theorem not_returns_guarded {route : Route} (guarded : route.guarded = true) (token : String) :
    ¬ (exchangeAt instruments route request memory).1.Returns token := by
  rw [exchangeAt_of_guarded instruments guarded]
  cases passGuards instruments.signer route memory.supply.next.1.now.second request with
  | error failure => exact not_returns_failure failure token
  | ok claims =>
      dsimp only
      split
      · unfold answerGuarded
        split
        · exact not_returns_record (by decide) (by decide)
        · rw [Backend.run, Program.run_bind]
          change ¬ (respond 200 _ _).Returns token
          cases (Program.run (Backend.ofMemory instruments.hasher).answer (answerProfile claims)
            ⟨memory.table, memory.supply.next.2⟩).1 with
          | error failure => exact not_returns_failure failure token
          | ok user => exact not_returns_record (by decide) (by decide)
      · exact not_returns_bare

theorem not_returns_unread {α : Type} {reader : Reader α} {response : Response}
    (refused : readDocument reader request = .error response) (token : String) :
    ¬ response.Returns token := by
  unfold readDocument at refused
  split at refused
  · obtain rfl := Except.error.inj refused
    exact not_returns_text (by decide)
  split at refused
  · obtain rfl := Except.error.inj refused
    exact not_returns_text (by decide)
  split at refused
  · obtain rfl := Except.error.inj refused
    exact not_returns_text (by decide)
  split at refused
  · contradiction
  · obtain rfl := Except.error.inj refused
    exact not_returns_text (by decide)
  · obtain rfl := Except.error.inj refused
    exact not_returns_text (by decide)

theorem returns_respond {status : Nat} {result : Except Failure Session} {token : String}
    (returns : (respond status sessionDocument result).Returns token) :
    ∃ session, result = .ok session ∧ session.token = token := by
  cases result with
  | error failure => exact absurd returns (not_returns_failure failure token)
  | ok session =>
      obtain ⟨user, same⟩ := returns
      exact ⟨session, rfl, token_eq_of_render_eq same⟩

theorem run_answerRegistration_ok {input : Wire.Registration} {session : Session}
    (ran : ((Backend.ofMemory instruments.hasher).run
      (answerRegistration instruments.signer input) memory).1 = .ok session) :
    ((Backend.ofMemory instruments.hasher).run (register instruments.signer
      { username := input.username, email := input.email, password := input.password })
      memory).1 = .ok session := by
  unfold answerRegistration at ran
  split at ran
  · contradiction
  · exact ran

theorem returns_of_sent {route : Route} {response : Response} {token : String}
    (returns : (sent route request response).Returns token) : response.Returns token := by
  have body : (sent route request response).body = response.body ∨
      (sent route request response).body = "" := body_sent response
  rcases body with same | none
  · obtain ⟨user, body⟩ := returns
    exact ⟨user, same.symm.trans body⟩
  · have mark := returns.mark
    rw [none] at mark
    contradiction

theorem open_of_returns {token : String}
    (returns : (exchange instruments request memory).1.Returns token) :
    ∃ route : Route, request.path = route.path ∧ route.guarded = false ∧
      route.allows request.method = true ∧ ((Backend.ofMemory instruments.hasher).run
        (answerOpen instruments.signer route request) memory).1.Returns token := by
  cases found : Route.ofPath? request.path with
  | none =>
      rw [exchange_of_none instruments found] at returns
      exact absurd returns not_returns_bare
  | some route =>
      have path := ofPath?_eq_some.mp found
      rw [exchange_of_path instruments path] at returns
      have plain := returns_of_sent returns
      cases guarded : route.guarded with
      | true => exact absurd plain (not_returns_guarded instruments guarded token)
      | false =>
          rw [exchangeAt_of_open instruments guarded] at plain
          split at plain
          next allowed => exact ⟨route, path, guarded, allowed, plain⟩
          next => exact absurd plain not_returns_bare

/-- Whatever returns a token is a registration or a login that has succeeded. -/
theorem returns_cases {token : String}
    (returns : (exchange instruments request memory).1.Returns token) :
    (∃ input session, ((Backend.ofMemory instruments.hasher).run
        (register instruments.signer input) memory).1 = .ok session ∧ session.token = token) ∨
    (request.path = "/auth/login" ∧ request.method = "POST" ∧
      ∃ input session, readDocument Wire.Login.reader request = .ok input ∧
        ((Backend.ofMemory instruments.hasher).run (login instruments.signer
          { username := input.username, password := input.password }) memory).1 = .ok session ∧
        session.token = token) := by
  obtain ⟨route, path, guarded, allowed, plain⟩ := open_of_returns instruments returns
  cases route with
  | ping => exact absurd plain (not_returns_record (by decide) (by decide))
  | register =>
      unfold answerOpen at plain
      dsimp only at plain
      split at plain
      next response refused => exact absurd plain (not_returns_unread refused token)
      next input read =>
        rw [Backend.run, Program.run_bind] at plain
        obtain ⟨session, ran, same⟩ := returns_respond plain
        exact .inl ⟨_, session, run_answerRegistration_ok instruments ran, same⟩
  | login =>
      unfold answerOpen at plain
      dsimp only at plain
      split at plain
      next response refused => exact absurd plain (not_returns_unread refused token)
      next input read =>
        rw [Backend.run, Program.run_bind] at plain
        obtain ⟨session, ran, same⟩ := returns_respond plain
        exact .inr ⟨path, eq_of_beq allowed, input, session, read, ran, same⟩
  | profile => contradiction
  | adminTest => contradiction

/-! Roles. -/

def Carries (token role : String) : Prop :=
  ∃ parts claims, Token.Signer.Parts.of? token = some parts ∧
    Token.Signer.readPart Token.Claims.reader parts.payload = .ok claims ∧ claims.role = role

theorem role_of_carries {signer : Token.Signer} {user : User} {now : Time.Instant}
    {session : Session} (issued : IssuedTo signer user now session) {role : String}
    (carries : Carries session.token role) : user.role.code = role := by
  obtain ⟨parts, claims, cut, read, rfl⟩ := carries
  rw [issued.signed, Token.Signer.sign] at cut
  have parts_eq := (Token.Signer.Parts.of?_join _ _ _).symm.trans cut
  have payload := Token.Signer.readPart_documentPart (Token.Claims.reader_reads issued.fits)
  rw [← Option.some.inj parts_eq] at read
  obtain rfl := Except.ok.inj (payload.symm.trans read)
  rfl

def administrators (table : Table) : Set Uuid :=
  {id | ∃ row ∈ table.users, row.id = id ∧ row.role = .admin}

theorem administrators_of_grows {earlier later : Table}
    (grows : earlier.Grows (fun row => row.role = .user) later) :
    administrators later = administrators earlier := by
  apply Set.ext
  intro id
  constructor
  · rintro ⟨row, member, same, admin⟩
    rcases Table.mem_users_of_grows grows member with before | user
    · exact ⟨row, before, same, admin⟩
    · rw [admin] at user
      contradiction
  · rintro ⟨row, member, same, admin⟩
    exact ⟨row, grows.mem_users member, same, admin⟩

/-! Requests one after another. -/

def exchangeAll (memory : Memory) (requests : List Request) : Memory :=
  requests.foldl (fun memory request => (exchange instruments request memory).2) memory

def AllIdsNew : Memory → List Request → Prop
  | _, [] => True
  | memory, request :: requests =>
    (answer instruments.signer request).Along (Backend.ofMemory instruments.hasher).answer
      Service.Request.IdNew memory ∧
    AllIdsNew (exchange instruments request memory).2 requests

instance decidableAllIdsNew : (memory : Memory) → (requests : List Request) →
    Decidable (AllIdsNew instruments memory requests)
  | _, [] => .isTrue trivial
  | memory, request :: requests =>
    have := decidableAllIdsNew (exchange instruments request memory).2 requests
    inferInstanceAs (Decidable (_ ∧ _))

variable {instruments}

theorem allIdsNew_append {earlier later : List Request} :
    AllIdsNew instruments memory (earlier ++ later) ↔
      AllIdsNew instruments memory earlier ∧
      AllIdsNew instruments (exchangeAll instruments memory earlier) later := by
  induction earlier generalizing memory with
  | nil => exact ⟨fun new => ⟨trivial, new⟩, fun new => new.2⟩
  | cons request requests ih =>
      rw [List.cons_append, AllIdsNew, AllIdsNew, ih, and_assoc]
      rfl

theorem exchange_grows
    (idsNew : (answer instruments.signer request).Along
      (Backend.ofMemory instruments.hasher).answer Service.Request.IdNew memory) :
    memory.table.Grows (fun row => row.role = .user)
      (exchange instruments request memory).2.table :=
  Backend.grows_run instruments.hasher (answer_only instruments.signer request) idsNew

theorem exchangeAll_grows {requests : List Request}
    (idsNew : AllIdsNew instruments memory requests) :
    memory.table.Grows (fun row => row.role = .user)
      (exchangeAll instruments memory requests).table := by
  induction requests generalizing memory with
  | nil => exact Table.Grows.refl memory.table
  | cons request requests ih => exact (exchange_grows idsNew.1).trans (ih idsNew.2)

def IsAdminLogin (table : Table) (request : Request) : Prop :=
  request.path = "/auth/login" ∧ request.method = "POST" ∧
    ∃ input clear row, readDocument Wire.Login.reader request = .ok input ∧
      Password.ClearText.of input.password = .ok clear ∧ row ∈ table.users ∧
      row.isDeleted = false ∧ row.role = .admin ∧ row.username.text = input.username ∧
      row.password.verifies clear = true

theorem isAdminLogin_of_returns
    (roles : ∀ row ∈ memory.table.users, row.role = .user ∨ row.role = .admin) {token : String}
    (returns : (exchange instruments request memory).1.Returns token)
    (carries : Carries token "admin") : IsAdminLogin memory.table request := by
  rcases returns_cases instruments returns with
    ⟨input, session, ran, rfl⟩ | ⟨path, method, input, session, read, ran, rfl⟩
  · -- A registration issues its session to a row of the role `user`.
    obtain ⟨names, clear, salt, row, now, -, -, issued, registered⟩ :=
      Backend.run_register_ok instruments.hasher ran
    obtain ⟨fresh, rfl⟩ := registered.created
    have role : "user" = "admin" := role_of_carries issued carries
    contradiction
  · obtain ⟨clear, row, now, accepted, member, live, named, verified, issued⟩ :=
      Backend.run_login_ok instruments.hasher ran
    have role := role_of_carries issued carries
    rcases roles row member with user | admin
    · rw [user] at role
      contradiction
    · exact ⟨path, method, input, clear, row, read, accepted, member, live, admin, named, verified⟩

/-- Requests that come to a store whose rows have the roles of users and of administrators make
nobody an administrator: they add rows of users and change no other. A token with the role of an
administrator is the answer to nothing but a login with the password of a live one, and the route
for administrators is open to nothing but a token with that role. -/
theorem no_privilege_escalation
    (roles : ∀ row ∈ memory.table.users, row.role = .user ∨ row.role = .admin)
    {requests : List Request} (idsNew : AllIdsNew instruments memory requests) :
    administrators (exchangeAll instruments memory requests).table =
      administrators memory.table ∧
    memory.table.Grows (fun row => row.role = .user)
      (exchangeAll instruments memory requests).table ∧
    ∀ earlier request later, requests = earlier ++ request :: later →
      let met := exchangeAll instruments memory earlier
      let response := (exchange instruments request met).1
      (∀ token, response.Returns token → Carries token "admin" →
        IsAdminLogin met.table request) ∧
      (request.path = "/admin/test" → response.status = 200 →
        ∃ token claims, (request.header? "authorization").bind bearerToken? = some token ∧
          instruments.signer.validate met.supply.next.1.now.second token = .ok claims ∧
          claims.role = "admin") := by
  have grows := exchangeAll_grows idsNew
  refine ⟨administrators_of_grows grows, grows, ?_⟩
  rintro earlier request later rfl
  intro met response
  have before := exchangeAll_grows (allIdsNew_append.mp idsNew).1
  constructor
  · intro token returns carries
    refine isAdminLogin_of_returns ?_ returns carries
    intro row member
    rcases Table.mem_users_of_grows before member with old | user
    · exact roles row old
    · exact .inl user
  · intro path passed
    exact exchange_adminTest instruments path passed

/-- A user registers beside an administrator. -/
theorem no_privilege_escalation_registration :
    let signer : Token.Signer := ⟨"key", 1, by decide, by decide, by decide⟩
    let instruments : Instruments := ⟨signer, ⟨⟨8, 1, 1⟩, rfl⟩⟩
    let admin : User :=
      createdRow (countingSupply.piece 15) ⟨⟨"root"⟩, ⟨"root@example.com"⟩, ⟨""⟩, .admin⟩
    let memory : Memory := ⟨⟨[(admin.id, admin)]⟩, countingSupply⟩
    let request : Request :=
      { method := "POST", target := "/auth/register",
        headers := [("content-type", utf8 "application/json")],
        body := utf8
          "\x7b\"username\":\"bob\",\"email\":\"bob@x.io\",\"password\":\"secret1\"\x7d" }
    (∀ row ∈ memory.table.users, row.role = .user ∨ row.role = .admin) ∧
    AllIdsNew instruments memory [request] ∧
    administrators (exchangeAll instruments memory [request]).table = {admin.id} := by
  intro signer instruments admin memory request
  have roles : ∀ row ∈ memory.table.users, row.role = .user ∨ row.role = .admin := by
    decide +kernel
  have idsNew : AllIdsNew instruments memory [request] := by
    decide +kernel
  refine ⟨roles, idsNew, ?_⟩
  rw [(no_privilege_escalation roles idsNew).1]
  apply Set.ext
  intro id
  constructor
  · rintro ⟨row, member, rfl, -⟩
    rw [List.mem_singleton.mp member]
    exact rfl
  · rintro rfl
    exact ⟨admin, List.mem_singleton.mpr rfl, rfl, rfl⟩

end Accounts.Http
