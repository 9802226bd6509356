import Accounts.Proofs.Service.Sessions
import Accounts.Proofs.Store.Answers

/-! The use cases before a store that may answer anything. A user is created only where all
searches before have found nobody, a failure of the store is passed on as it is, and nobody logs in
but with the password of a user that the store has found. -/

namespace Accounts.Service

open Store

abbrev Exchanged : Type := (request : Request) × request.Reply

def Exchanged.creates : Exchanged → Bool
  | ⟨.create _, _⟩ => true
  | _ => false

def Exchanged.absent (operation : Operation) : Exchanged :=
  ⟨.perform operation, .error .userNotFound⟩

@[simp] theorem Exchanged.fst_absent (operation : Operation) :
    (Exchanged.absent operation).fst = .perform operation := rfl

variable {α σ : Type}

/-- What a use case that creates a user owes to whatever store it meets: it looks for the user as
soon as the names are accepted, has its input checked and all searches made before it creates, asks
for nothing else to be changed, and hides no failure. -/
structure FailsClosed (names : Except Failure (UserName × Email))
    (password : Except Failure Password.ClearText) (role : Role)
    (searches : UserName × Email → List Operation) (refusal : Failure → Except Failure α)
    (asked : List Exchanged) (result : Except Failure α) : Prop where
  sought : ∀ known operation, names = .ok known → (searches known).head? = some operation →
    asked.head?.map Sigma.fst = some (.perform operation)
  once : (asked.filter Exchanged.creates).length ≤ 1
  guarded : ∀ before new reply after, asked = before ++ ⟨.create new, reply⟩ :: after →
    ∃ known clear hashed, names = .ok known ∧ password = .ok clear ∧
      new = { username := known.1, email := known.2, password := hashed, role } ∧
      before = (searches known).map Exchanged.absent ++ [⟨.hash clear, hashed⟩]
  searchesOnly : ∀ operation reply, ⟨.perform operation, reply⟩ ∈ asked → operation.IsSearch
  unanswered : ∀ operation failure, ⟨.perform operation, .error failure⟩ ∈ asked →
    failure ≠ .userNotFound → result = .error failure ∧ ∀ exchanged ∈ asked, ¬ exchanged.creates
  refused : ∀ new failure, ⟨.create new, .error failure⟩ ∈ asked → result = refusal failure

def Exchanged.Searches (result : Except Failure α) : Exchanged → Prop
  | ⟨.perform operation, reply⟩ => operation.IsSearch ∧
      ∀ failure, reply = .error failure → failure ≠ .userNotFound → result = .error failure
  | _ => False

def Idle (asked : List Exchanged) : Prop := ∀ exchanged ∈ asked, exchanged.creates = false

section Closing

variable {names : Except Failure (UserName × Email)}
  {password : Except Failure Password.ClearText} {role : Role}
  {searches : UserName × Email → List Operation} {refusal : Failure → Except Failure α}
  {asked : List Exchanged} {result : Except Failure α}

theorem Idle.filter_eq_nil (idle : Idle asked) : asked.filter Exchanged.creates = [] := by
  simpa [Idle, List.filter_eq_nil_iff] using idle

theorem Idle.not_mem (idle : Idle asked) (new : NewUser) (reply : Except Failure User) :
    (⟨.create new, reply⟩ : Exchanged) ∉ asked := by
  intro member
  exact Bool.false_ne_true (idle _ member).symm

theorem Exchanged.Searches.creates_eq_false {exchanged : Exchanged}
    (search : exchanged.Searches result) : exchanged.creates = false := by
  obtain ⟨request, reply⟩ := exchanged
  cases request with
  | create new => exact search.elim
  | _ => rfl

theorem Exchanged.searches_absent {operation : Operation} (search : operation.IsSearch) :
    (Exchanged.absent operation).Searches result := by
  refine ⟨search, ?_⟩
  rintro failure ⟨rfl⟩ other
  exact absurd rfl other

/-- A use case that has done nothing but search hides no failure if the search that failed is the
one that decides. -/
theorem failsClosed_of_searches
    (sought : ∀ known operation, names = .ok known → (searches known).head? = some operation →
      asked.head?.map Sigma.fst = some (.perform operation))
    (plain : ∀ exchanged ∈ asked, exchanged.Searches result) :
    FailsClosed names password role searches refusal asked result := by
  have idle : Idle asked := fun exchanged member => (plain exchanged member).creates_eq_false
  refine ⟨sought, ?_, ?_, ?_, ?_, ?_⟩
  · simp [idle.filter_eq_nil]
  · rintro before new reply after rfl
    exact (plain ⟨.create new, reply⟩ (by simp)).elim
  · intro operation reply member
    exact (plain _ member).1
  · intro operation failure member other
    refine ⟨(plain _ member).2 failure rfl other, fun exchanged among => ?_⟩
    simp [idle exchanged among]
  · intro new failure member
    exact (plain _ member).elim

theorem idle_sought (operations : List Operation) (clear : Password.ClearText)
    (hashed : Password.Hashed) :
    Idle (operations.map Exchanged.absent ++ [⟨.hash clear, hashed⟩]) := by
  intro exchanged member
  simp only [List.mem_append, List.mem_map, List.mem_singleton] at member
  rcases member with ⟨operation, -, rfl⟩ | rfl
  · rfl
  · rfl

/-- A use case that has a user created after its searches have found nobody may ask for the time
then, and for nothing else. -/
theorem failsClosed_of_creation {known : UserName × Email} {clear : Password.ClearText}
    {hashed : Password.Hashed} {new : NewUser} {reply : Except Failure User}
    {tail : List Exchanged} (read : names = .ok known) (accepted : password = .ok clear)
    (made : new = { username := known.1, email := known.2, password := hashed, role })
    (sought : ∀ operation ∈ searches known, operation.IsSearch)
    (clocks : ∀ exchanged ∈ tail, ∃ now, exchanged = ⟨.now, now⟩)
    (refused : ∀ failure, reply = .error failure → result = refusal failure) :
    FailsClosed names password role searches refusal
      (((searches known).map Exchanged.absent ++ [⟨.hash clear, hashed⟩]) ++
        ⟨.create new, reply⟩ :: tail) result := by
  have before := idle_sought (searches known) clear hashed
  have after : Idle tail := by
    intro exchanged member
    obtain ⟨now, rfl⟩ := clocks exchanged member
    rfl
  have performed : ∀ operation answer, (⟨.perform operation, answer⟩ : Exchanged) ∈
      ((searches known).map Exchanged.absent ++ [⟨.hash clear, hashed⟩]) ++
        ⟨.create new, reply⟩ :: tail → operation ∈ searches known ∧
          answer = .error .userNotFound := by
    intro operation answer member
    simp only [List.mem_append, List.mem_map, List.mem_cons, List.not_mem_nil, or_false] at member
    rcases member with (⟨sought, among, same⟩ | same) | same | later
    · cases same
      exact ⟨among, rfl⟩
    · cases same
    · cases same
    · obtain ⟨now, same⟩ := clocks _ later
      cases same
  -- The one creation stands between exchanges that ask for none, so any other is itself.
  refine ⟨?_, ?_, ?_, ?_, ?_, ?_⟩
  · intro known' operation read' head
    obtain rfl := Except.ok.inj (read.symm.trans read')
    obtain ⟨others, listed⟩ := List.head?_eq_some_iff.mp head
    rw [listed]
    rfl
  · rw [List.filter_append, before.filter_eq_nil, List.filter_cons_of_pos rfl, after.filter_eq_nil]
    exact Nat.le_refl 1
  · intro first new' answer last split
    obtain ⟨same, creation, -⟩ :=
      (List.append_cons_inj_of_notMem (before.not_mem _ _) (after.not_mem _ _)).mp split
    cases creation
    exact ⟨known, clear, hashed, read, accepted, made, same.symm⟩
  · intro operation answer member
    exact sought operation (performed operation answer member).1
  · intro operation failure member other
    exact absurd (Except.error.inj (performed operation _ member).2) other
  · intro new' failure member
    rcases List.mem_append.mp member with early | late
    · exact absurd early (before.not_mem new' _)
    · rcases List.mem_cons.mp late with same | later
      · cases same
        exact refused failure rfl
      · exact absurd later (after.not_mem new' _)

end Closing

/-! Registrations. -/

section Registrations

variable (signer : Token.Signer) (input : Registration)

inductive Registers : List Exchanged → Except Failure Session → Prop
  | unread {failure : Failure} (read : readNames input.username input.email = .error failure) :
      Registers [] (.error failure)
  | nameKnown {names : UserName × Email} {search : Except Failure User} {failure : Failure}
      (read : readNames input.username input.email = .ok names)
      (known : ensureAbsent search .usernameTaken = .error failure) :
      Registers [⟨.perform (.findByUsername names.1.text), search⟩] (.error failure)
  | addressKnown {names : UserName × Email} {search : Except Failure User} {failure : Failure}
      (read : readNames input.username input.email = .ok names)
      (known : ensureAbsent search .emailTaken = .error failure) :
      Registers [.absent (.findByUsername names.1.text),
        ⟨.perform (.findByEmail names.2.text), search⟩] (.error failure)
  | weak {names : UserName × Email} {failure : Failure}
      (read : readNames input.username input.email = .ok names)
      (weak : readPassword input.password = .error failure) :
      Registers [.absent (.findByUsername names.1.text), .absent (.findByEmail names.2.text)]
        (.error failure)
  | refused {names : UserName × Email} {clear : Password.ClearText} {hashed : Password.Hashed}
      {failure : Failure}
      (read : readNames input.username input.email = .ok names)
      (accepted : readPassword input.password = .ok clear) :
      Registers [.absent (.findByUsername names.1.text), .absent (.findByEmail names.2.text),
        ⟨.hash clear, hashed⟩,
        ⟨.create { username := names.1, email := names.2, password := hashed, role := .user },
          .error failure⟩] (.error failure)
  | created {names : UserName × Email} {clear : Password.ClearText} {hashed : Password.Hashed}
      {user : User} {now : Time.Instant} {result : Except Failure Session}
      (read : readNames input.username input.email = .ok names)
      (accepted : readPassword input.password = .ok clear)
      (issued : afterNow signer user now = .done result) :
      Registers [.absent (.findByUsername names.1.text), .absent (.findByEmail names.2.text),
        ⟨.hash clear, hashed⟩,
        ⟨.create { username := names.1, email := names.2, password := hashed, role := .user },
          .ok user⟩,
        ⟨.now, now⟩] result

theorem ensureAbsent_ok {search : Except Failure User} {taken : Failure}
    (free : ensureAbsent search taken = .ok ()) : search = .error .userNotFound := by
  unfold ensureAbsent at free
  split at free
  · contradiction
  · rfl
  · contradiction

theorem ensureAbsent_error {search : Except Failure User} {taken failure error : Failure}
    (refused : ensureAbsent search taken = .error failure) (failed : search = .error error) :
    failure = error := by
  subst failed
  unfold ensureAbsent at refused
  split at refused
  · contradiction
  · contradiction
  next same => exact (Except.error.inj refused).symm.trans (Except.error.inj same).symm

theorem register_always : (register signer input).Always (Registers signer input) := by
  rw [register_eq]
  cases read : readNames input.username input.email with
  | error failure => exact .unread read
  | ok names =>
      intro byUsername
      unfold afterUsername
      cases known : ensureAbsent byUsername .usernameTaken with
      | error failure => exact .nameKnown read known
      | ok _ =>
          obtain rfl := ensureAbsent_ok known
          intro byEmail
          unfold afterEmail
          cases known : ensureAbsent byEmail .emailTaken with
          | error failure => exact .addressKnown read known
          | ok _ =>
              obtain rfl := ensureAbsent_ok known
              cases accepted : readPassword input.password with
              | error failure => exact .weak read accepted
              | ok clear =>
                  intro hashed created
                  cases created with
                  | error failure => exact .refused read accepted
                  | ok user =>
                      intro now
                      obtain ⟨result, issued⟩ := afterNow_done signer user now
                      rw [issued]
                      exact .created read accepted issued

theorem Registers.failsClosed {asked : List Exchanged} {result : Except Failure Session}
    (registers : Registers signer input asked result) :
    FailsClosed (readNames input.username input.email) (readPassword input.password) .user
      (fun names => [.findByUsername names.1.text, .findByEmail names.2.text]) .error
      asked result := by
  cases registers with
  | unread read => exact failsClosed_of_searches (by simp [read]) (List.forall_mem_nil _)
  | nameKnown read known =>
      apply failsClosed_of_searches (by simp [read])
      rw [List.forall_mem_singleton]
      refine ⟨trivial, fun failure failed _ => ?_⟩
      rw [ensureAbsent_error known failed]
  | addressKnown read known =>
      apply failsClosed_of_searches (by simp [read])
      rw [List.forall_mem_cons, List.forall_mem_singleton]
      refine ⟨Exchanged.searches_absent trivial, trivial, fun failure failed _ => ?_⟩
      rw [ensureAbsent_error known failed]
  | weak read weak =>
      apply failsClosed_of_searches (by simp [read])
      rw [List.forall_mem_cons, List.forall_mem_singleton]
      exact ⟨Exchanged.searches_absent trivial, Exchanged.searches_absent trivial⟩
  | refused read accepted =>
      refine failsClosed_of_creation read accepted rfl ?_ (List.forall_mem_nil _) ?_
      · simp [Operation.IsSearch]
      · rintro failure ⟨rfl⟩
        rfl
  | created read accepted issued =>
      refine failsClosed_of_creation read accepted rfl ?_ ?_ nofun
      · simp [Operation.IsSearch]
      · simp

end Registrations

/-! The seeding of the administrator. -/

section Seedings

variable (admin : DefaultAdmin)

def afterRefusal (failure : Failure) : Except Failure Seeding :=
  if failure = .usernameTaken ∨ failure = .emailTaken then .ok .alreadyPresent else .error failure

inductive Seeds : List Exchanged → Except Failure Seeding → Prop
  | unread {failure : Failure} (read : readNames admin.username admin.email = .error failure) :
      Seeds [] (.error failure)
  | unanswered {names : UserName × Email} {failure : Failure}
      (read : readNames admin.username admin.email = .ok names) (other : failure ≠ .userNotFound) :
      Seeds [⟨.perform (.findByUsername names.1.text), .error failure⟩] (.error failure)
  | present {names : UserName × Email} {user : User}
      (read : readNames admin.username admin.email = .ok names) :
      Seeds [⟨.perform (.findByUsername names.1.text), .ok user⟩] (.ok .alreadyPresent)
  | weak {names : UserName × Email} {failure : Failure}
      (read : readNames admin.username admin.email = .ok names)
      (weak : readPassword admin.password = .error failure) :
      Seeds [.absent (.findByUsername names.1.text)] (.error failure)
  | refused {names : UserName × Email} {clear : Password.ClearText} {hashed : Password.Hashed}
      {failure : Failure}
      (read : readNames admin.username admin.email = .ok names)
      (accepted : readPassword admin.password = .ok clear) :
      Seeds [.absent (.findByUsername names.1.text), ⟨.hash clear, hashed⟩,
        ⟨.create { username := names.1, email := names.2, password := hashed, role := .admin },
          .error failure⟩] (afterRefusal failure)
  | created {names : UserName × Email} {clear : Password.ClearText} {hashed : Password.Hashed}
      {user : User}
      (read : readNames admin.username admin.email = .ok names)
      (accepted : readPassword admin.password = .ok clear) :
      Seeds [.absent (.findByUsername names.1.text), ⟨.hash clear, hashed⟩,
        ⟨.create { username := names.1, email := names.2, password := hashed, role := .admin },
          .ok user⟩] (.ok (.created user.id))

theorem afterSeeded_error (failure : Failure) :
    afterSeeded (.error failure) = .done (afterRefusal failure) := by
  cases failure <;> simp [afterSeeded, afterRefusal]

theorem seed_always : (seed admin).Always (Seeds admin) := by
  rw [seed_eq]
  cases read : readNames admin.username admin.email with
  | error failure => exact .unread read
  | ok names =>
      intro search
      rcases search with failure | user
      · by_cases absent : failure = .userNotFound
        · subst absent
          unfold afterSought foundUser
          cases accepted : readPassword admin.password with
          | error failure => exact .weak read accepted
          | ok clear =>
              intro hashed created
              cases created with
              | error failure =>
                  rw [afterSeeded_error]
                  exact .refused read accepted
              | ok user => exact .created read accepted
        · unfold afterSought
          rw [foundUser_error absent]
          exact .unanswered read absent
      · exact .present read

theorem Seeds.failsClosed {asked : List Exchanged} {result : Except Failure Seeding}
    (seeds : Seeds admin asked result) :
    FailsClosed (readNames admin.username admin.email) (readPassword admin.password) .admin
      (fun names => [.findByUsername names.1.text]) afterRefusal asked result := by
  cases seeds with
  | unread read => exact failsClosed_of_searches (by simp [read]) (List.forall_mem_nil _)
  | unanswered read other =>
      apply failsClosed_of_searches (by simp [read])
      rw [List.forall_mem_singleton]
      refine ⟨trivial, ?_⟩
      rintro failure ⟨rfl⟩ -
      rfl
  | present read =>
      apply failsClosed_of_searches (by simp [read])
      rw [List.forall_mem_singleton]
      exact ⟨trivial, nofun⟩
  | weak read weak =>
      apply failsClosed_of_searches (by simp [read])
      rw [List.forall_mem_singleton]
      exact Exchanged.searches_absent trivial
  | refused read accepted =>
      refine failsClosed_of_creation read accepted rfl ?_ (List.forall_mem_nil _) ?_
      · simp [Operation.IsSearch]
      · rintro failure ⟨rfl⟩
        rfl
  | created read accepted =>
      refine failsClosed_of_creation read accepted rfl ?_ (List.forall_mem_nil _) nofun
      simp [Operation.IsSearch]

end Seedings

/-! Logins. -/

section Logins

variable (signer : Token.Signer) (input : Login)

/-- What a login owes to whatever store it meets: a session is for the password of the user that was
found, wrong credentials are those of a password or of a name that does not fit, and a failure of
the store is passed on. -/
structure LoginFailsClosed (lookup : Except Failure User) (result : Except Failure Session) :
    Prop where
  granted : ∀ session, result = .ok session → ∃ clear user now,
    Password.ClearText.of input.password = .ok clear ∧ lookup = .ok user ∧
      user.password.verifies clear = true ∧ IssuedTo signer user now session
  denied : result = .error .invalidCredentials ↔
    (∃ error, Password.ClearText.of input.password = .error error) ∨
    lookup = .error .userNotFound ∨
    (∃ clear user, Password.ClearText.of input.password = .ok clear ∧ lookup = .ok user ∧
      user.password.verifies clear = false) ∨
    lookup = .error .invalidCredentials
  passedOn : ∀ clear failure, Password.ClearText.of input.password = .ok clear →
    lookup = .error failure → failure ≠ .userNotFound → result = .error failure

variable {signer input}

theorem ofToken_ne_invalidCredentials (error : Token.TokenError) :
    Failure.ofToken error ≠ .invalidCredentials := by
  unfold Failure.ofToken
  split <;> simp

theorem afterNow_ne_invalidCredentials (user : User) (now : Time.Instant) :
    afterNow signer user now ≠ .done (.error .invalidCredentials) := by
  unfold afterNow
  cases signer.issue user.id.render user.username.text user.role.code now with
  | error error =>
      intro same
      exact ofToken_ne_invalidCredentials error (Except.error.inj (Program.done.inj same))
  | ok text => exact fun same => absurd (Program.done.inj same) (by simp)

theorem LogsIn.failsClosed {lookup : Except Failure User} {result : Except Failure Session}
    (logsIn : LogsIn signer input lookup result) :
    LoginFailsClosed signer input lookup result := by
  cases logsIn with
  | weak refused => exact ⟨by simp, by simp [refused], by simp [refused]⟩
  | unanswered accepted failed other =>
      refine ⟨by simp, ?_, ?_⟩
      · simp [accepted, failed, other]
      · simp [failed]
  | absent accepted absent => exact ⟨by simp, by simp [absent], by simp [absent]⟩
  | wrong accepted found wrong =>
      refine ⟨by simp, ?_, by simp [found]⟩
      simp [accepted, found, wrong]
  | right accepted found right issued =>
      refine ⟨?_, ?_, by simp [found]⟩
      · rintro session rfl
        exact ⟨_, _, _, accepted, found, right, afterNow_issuedTo issued⟩
      · have other : result ≠ .error .invalidCredentials := by
          rintro rfl
          exact afterNow_ne_invalidCredentials _ _ issued
        simp [accepted, found, right, other]

/-- A store that does not speak of wrong credentials itself leaves three reasons for them. -/
theorem LoginFailsClosed.invalidCredentials_iff {lookup : Except Failure User}
    {result : Except Failure Session} (closed : LoginFailsClosed signer input lookup result)
    (other : lookup ≠ .error .invalidCredentials) :
    result = .error .invalidCredentials ↔
      (∃ error, Password.ClearText.of input.password = .error error) ∨
      lookup = .error .userNotFound ∨
      ∃ clear user, Password.ClearText.of input.password = .ok clear ∧ lookup = .ok user ∧
        user.password.verifies clear = false := by
  simpa [other] using closed.denied

end Logins

/-! The use cases on any store. -/

/-- Whatever a store answers, nobody is created whom it has not been asked for before, no failure of
it is taken for anything else, and nobody logs in as a user that it has not found.

Any failure of a store is passed on by a login, so wrong credentials have a fourth reason next to a
password that fails the policy, a name that is not found and a password that is not the user's: a
store that answers with them itself. No store here does, and for those that do not
`LoginFailsClosed.invalidCredentials_iff` is the statement with three reasons. -/
theorem use_cases_fail_closed (backend : Backend (StateM σ)) (signer : Token.Signer) (state : σ) :
    (∀ input : Registration,
      FailsClosed (readNames input.username input.email) (readPassword input.password) .user
        (fun names => [.findByUsername names.1.text, .findByEmail names.2.text]) .error
        ((register signer input).transcript backend.answer state)
        (backend.run (register signer input) state).1) ∧
    (∀ admin : DefaultAdmin,
      FailsClosed (readNames admin.username admin.email) (readPassword admin.password) .admin
        (fun names => [.findByUsername names.1.text]) afterRefusal
        ((seed admin).transcript backend.answer state) (backend.run (seed admin) state).1) ∧
    ∀ input : Login,
      LoginFailsClosed signer input (backend.perform (.findByUsername input.username) state).1
        (backend.run (login signer input) state).1 := by
  refine ⟨fun input => ?_, fun admin => ?_, fun input => ?_⟩
  · have registers := (register_always signer input).of_run backend.answer state
    exact registers.failsClosed
  · have seeds := (seed_always admin).of_run backend.answer state
    exact seeds.failsClosed
  · exact (run_login_logsIn signer input backend state).failsClosed

/-! A server's answer is never that the credentials are wrong. -/

theorem result_ne (operation : Operation) (answer : Answer) :
    operation.result answer ≠ .error .invalidCredentials := by
  intro same
  have outcome := operation.outcome_result answer
  rw [same] at outcome
  cases outcome

theorem ofLink_lookup_ne (hasher : Password.Hasher) (username : String)
    (state : Link σ × Supply) :
    ((Backend.ofLink hasher).perform (.findByUsername username) state).1 ≠
      .error .invalidCredentials := by
  obtain ⟨link, supply⟩ := state
  change (Channel.pool.perform (.findByUsername username) link).1 ≠ _
  cases barred : link.barred with
  | some error =>
      have refused : (Channel.pool.perform (.findByUsername username) link).1 =
          .error (.storage error) := by
        simp only [Channel.perform, Link.perform, Link.connect, barred, bind, StateT.bind]
        rfl
      rw [refused]
      simp
  | none =>
      have reaches : Channel.pool.Reaches link := barred
      rw [Channel.perform_eq reaches]
      exact result_ne (.findByUsername username) (link.reply _)

theorem ofLink_login_denied (hasher : Password.Hasher) (signer : Token.Signer) (input : Login)
    (state : Link σ × Supply) :
    ((Backend.ofLink hasher).run (login signer input) state).1 = .error .invalidCredentials ↔
      (∃ error, Password.ClearText.of input.password = .error error) ∨
      (Link.perform (.findByUsername input.username) state.1).1 = .error .userNotFound ∨
      ∃ clear user, Password.ClearText.of input.password = .ok clear ∧
        (Link.perform (.findByUsername input.username) state.1).1 = .ok user ∧
        user.password.verifies clear = false := by
  have closed := (run_login_logsIn signer input (Backend.ofLink hasher) state).failsClosed
  exact closed.invalidCredentials_iff (ofLink_lookup_ne hasher input.username state)

end Accounts.Service
