import Accounts.Proofs.Service.Register
import Accounts.Proofs.Store.Rows
import Accounts.Service.UseCases

/-! A login and the seeding of the administrator request by request, what each use case may ask for,
and what that does to a store in memory. -/

namespace Accounts.Service

open Store

/-! What is left of a use case after each reply. -/

section Steps

variable (signer : Token.Signer)

def afterVerified : Option User → Bool → UseCase (Except Failure Session)
  | some user, true => .ask .now (afterNow signer user)
  | _, _ => .done (.error .invalidCredentials)

def afterFound (password : Password.ClearText) (search : Except Failure User) :
    UseCase (Except Failure Session) :=
  match foundUser search with
  | .error failure => .done (.error failure)
  | .ok user => .ask (.verify (user.map User.password) password) (afterVerified signer user)

theorem login_eq (input : Login) :
    login signer input =
      match Password.ClearText.of input.password with
      | .error _ => .done (.error .invalidCredentials)
      | .ok password =>
        .ask (.perform (.findByUsername input.username)) (afterFound signer password) := by
  unfold login
  simp only [bind, ask, Program.request, Program.andThen]
  cases Password.ClearText.of input.password with
  | error error => rfl
  | ok password =>
      refine congrArg (Program.ask _) (funext fun search => ?_)
      unfold afterFound
      cases foundUser search with
      | error failure => rfl
      | ok user =>
          refine congrArg (Program.ask _) (funext fun verified => ?_)
          cases user with
          | none => rfl
          | some user =>
              cases verified with
              | false => rfl
              | true => rfl

theorem foundUser_error {failure : Failure} (other : failure ≠ .userNotFound) :
    foundUser (.error failure) = .error failure := by
  unfold foundUser
  split <;> simp_all

inductive LogsIn (input : Login) (lookup : Except Failure User) : Except Failure Session → Prop
  | weak {error : Password.PolicyError}
      (refused : Password.ClearText.of input.password = .error error) :
      LogsIn input lookup (.error .invalidCredentials)
  | unanswered {clear : Password.ClearText} {failure : Failure}
      (accepted : Password.ClearText.of input.password = .ok clear)
      (failed : lookup = .error failure) (other : failure ≠ .userNotFound) :
      LogsIn input lookup (.error failure)
  | absent {clear : Password.ClearText}
      (accepted : Password.ClearText.of input.password = .ok clear)
      (absent : lookup = .error .userNotFound) :
      LogsIn input lookup (.error .invalidCredentials)
  | wrong {clear : Password.ClearText} {user : User}
      (accepted : Password.ClearText.of input.password = .ok clear)
      (found : lookup = .ok user) (wrong : user.password.verifies clear = false) :
      LogsIn input lookup (.error .invalidCredentials)
  | right {clear : Password.ClearText} {user : User} {now : Time.Instant}
      {result : Except Failure Session}
      (accepted : Password.ClearText.of input.password = .ok clear)
      (found : lookup = .ok user) (right : user.password.verifies clear = true)
      (issued : afterNow signer user now = .done result) : LogsIn input lookup result

theorem run_login_logsIn {σ : Type} (input : Login) (backend : Backend (StateM σ)) (state : σ) :
    LogsIn signer input (backend.perform (.findByUsername input.username) state).1
      (backend.run (login signer input) state).1 := by
  rw [login_eq]
  cases accepted : Password.ClearText.of input.password with
  | error error => exact .weak accepted
  | ok clear =>
      simp only [Backend.run, Program.run_ask]
      change LogsIn signer input (backend.perform (.findByUsername input.username) state).1
        (Program.run backend.answer (afterFound signer clear
          (backend.perform (.findByUsername input.username) state).1) _).1
      rcases searched : (backend.perform (.findByUsername input.username) state).1 with
        failure | user
      · by_cases absent : failure = .userNotFound
        · subst absent
          exact .absent accepted rfl
        · unfold afterFound
          rw [foundUser_error absent]
          exact .unanswered accepted rfl absent
      · unfold afterFound foundUser
        simp only [Option.map_some, Program.run_ask]
        change LogsIn signer input _ (Program.run backend.answer
          (afterVerified signer (some user) (user.password.verifies clear)) _).1
        cases verified : user.password.verifies clear with
        | false => exact .wrong accepted rfl verified
        | true =>
            unfold afterVerified
            rw [Program.run_ask]
            obtain ⟨result, issued⟩ := afterNow_done signer user (backend.answer .now _).1
            rw [issued]
            exact .right accepted rfl verified issued

def afterSeeded : Except Failure User → UseCase (Except Failure Seeding)
  | .ok user => .done (.ok (.created user.id))
  | .error .usernameTaken => .done (.ok .alreadyPresent)
  | .error .emailTaken => .done (.ok .alreadyPresent)
  | .error failure => .done (.error failure)

def afterSought (names : UserName × Email) (password : String) (search : Except Failure User) :
    UseCase (Except Failure Seeding) :=
  match foundUser search with
  | .error failure => .done (.error failure)
  | .ok (some _) => .done (.ok .alreadyPresent)
  | .ok none =>
    match readPassword password with
    | .error failure => .done (.error failure)
    | .ok password =>
      .ask (.hash password) fun password =>
        .ask (.create { username := names.1, email := names.2, password, role := .admin })
          afterSeeded

theorem seed_eq (admin : DefaultAdmin) :
    seed admin =
      match readNames admin.username admin.email with
      | .error failure => .done (.error failure)
      | .ok names =>
        .ask (.perform (.findByUsername names.1.text)) (afterSought names admin.password) := by
  unfold seed
  simp only [bind, ask, Program.request, Program.andThen]
  cases readNames admin.username admin.email with
  | error failure => rfl
  | ok names =>
      refine congrArg (Program.ask _) (funext fun search => ?_)
      unfold afterSought
      cases foundUser search with
      | error failure => rfl
      | ok user =>
          cases user with
          | some user => rfl
          | none =>
              cases readPassword admin.password with
              | error failure => rfl
              | ok password =>
                  refine congrArg (Program.ask _) (funext fun hashed => ?_)
                  refine congrArg (Program.ask _) (funext fun created => ?_)
                  cases created with
                  | ok user => rfl
                  | error failure =>
                      cases failure with
                      | usernameTaken => rfl
                      | emailTaken => rfl
                      | _ => rfl

end Steps

/-! What a use case may ask for. -/

def Request.Adds (good : Role → Prop) : Request → Prop
  | .perform operation => operation.IsSearch
  | .create new => good new.role
  | .hash _ | .verify _ _ | .now => True

section Asking

variable {good : Role → Prop} (signer : Token.Signer)

theorem afterNow_only (allowed : Request → Prop) (user : User) (now : Time.Instant) :
    (afterNow signer user now).Only allowed := by
  obtain ⟨result, issued⟩ := afterNow_done signer user now
  rw [issued]
  trivial

theorem register_only (user : good .user) (input : Registration) :
    (register signer input).Only (Request.Adds good) := by
  rw [register_eq]
  cases readNames input.username input.email with
  | error failure => trivial
  | ok names =>
      refine ⟨trivial, fun byUsername => ?_⟩
      unfold afterUsername
      cases ensureAbsent byUsername .usernameTaken with
      | error failure => trivial
      | ok free =>
          refine ⟨trivial, fun byEmail => ?_⟩
          unfold afterEmail
          cases ensureAbsent byEmail .emailTaken with
          | error failure => trivial
          | ok free =>
              cases readPassword input.password with
              | error failure => trivial
              | ok password =>
                  refine ⟨trivial, fun hashed => ⟨user, fun created => ?_⟩⟩
                  cases created with
                  | error failure => trivial
                  | ok user => exact ⟨trivial, afterNow_only signer _ user⟩

theorem afterVerified_only (user : Option User) (verified : Bool) :
    (afterVerified signer user verified).Only (Request.Adds good) := by
  cases user with
  | none => trivial
  | some user =>
      cases verified with
      | false => trivial
      | true => exact ⟨trivial, afterNow_only signer _ user⟩

theorem login_only (input : Login) : (login signer input).Only (Request.Adds good) := by
  rw [login_eq]
  cases Password.ClearText.of input.password with
  | error error => trivial
  | ok password =>
      refine ⟨trivial, fun search => ?_⟩
      unfold afterFound
      cases foundUser search with
      | error failure => trivial
      | ok user => exact ⟨trivial, afterVerified_only signer user⟩

theorem seed_only (administrator : good .admin) (admin : DefaultAdmin) :
    (seed admin).Only (Request.Adds good) := by
  rw [seed_eq]
  cases readNames admin.username admin.email with
  | error failure => trivial
  | ok names =>
      refine ⟨trivial, fun search => ?_⟩
      unfold afterSought
      cases foundUser search with
      | error failure => trivial
      | ok user =>
          cases user with
          | some user => trivial
          | none =>
              cases readPassword admin.password with
              | error failure => trivial
              | ok password =>
                  refine ⟨trivial, fun hashed => ⟨administrator, fun created => ?_⟩⟩
                  cases created with
                  | ok user => trivial
                  | error failure =>
                      cases failure with
                      | usernameTaken => trivial
                      | emailTaken => trivial
                      | _ => trivial

theorem profile_only (id : Uuid) : (profile id).Only (Request.Adds good) :=
  ⟨trivial, fun _ => trivial⟩

end Asking

/-! What a store in memory answers. -/

instance : (operation : Operation) → (memory : Memory) → Decidable (operation.IdNew memory)
  | .create _, _ => inferInstanceAs (Decidable (_ → _))
  | .findByUsername _, _ | .findByEmail _, _ | .findById _, _ => .isTrue trivial
  | .update _, _ | .delete _, _ => .isTrue trivial

def Request.IdNew : Request → Memory → Prop
  | .perform operation, memory => operation.IdNew memory
  | .create new, memory => (Operation.create new).IdNew memory
  | .hash _, _ | .verify _ _, _ | .now, _ => True

instance : (request : Request) → (memory : Memory) → Decidable (request.IdNew memory)
  | .perform operation, memory => inferInstanceAs (Decidable (operation.IdNew memory))
  | .create new, memory => inferInstanceAs (Decidable ((Operation.create new).IdNew memory))
  | .hash _, _ | .verify _ _, _ | .now, _ => .isTrue trivial

theorem Request.idNew_of_adds {request : Request} (adds : request.Adds fun _ => False)
    (memory : Memory) : request.IdNew memory := by
  cases request with
  | perform operation =>
      cases operation with
      | create new => exact adds.elim
      | _ => trivial
  | create new => exact adds.elim
  | hash password => trivial
  | verify hashed password => trivial
  | now => trivial

namespace Backend

variable (hasher : Password.Hasher)

theorem login_idsNew (signer : Token.Signer) (input : Login) (memory : Memory) :
    (login signer input).Along (ofMemory hasher).answer Request.IdNew memory :=
  (login_only signer input).along_of (fun _ met adds => Request.idNew_of_adds adds met) memory

/-- A request leaves the table as it is, or does to it what one operation does. -/
theorem table_answer (request : Request) (memory : Memory) :
    ((ofMemory hasher).answer request memory).2.table = memory.table ∨
    ∃ operation, (request.IdNew memory → operation.IdNew memory) ∧
      ((ofMemory hasher).answer request memory).2.table =
        (Memory.perform operation memory).2.table := by
  cases request with
  | perform operation => exact .inr ⟨operation, id, rfl⟩
  | create new =>
      refine .inr ⟨.create new, id, ?_⟩
      rw [answer_create]
      rfl
  | hash password => exact .inl rfl
  | verify hashed password => exact .inl rfl
  | now => exact .inl rfl

theorem grows_answer {good : Role → Prop} {request : Request} {memory : Memory}
    (adds : request.Adds good) (idNew : request.IdNew memory) :
    memory.table.Grows (fun row => good row.role)
      ((ofMemory hasher).answer request memory).2.table := by
  cases request with
  | perform operation =>
      have same : ((ofMemory hasher).answer (.perform operation) memory).2.table =
          memory.table := adds.table memory
      rw [same]
      exact Table.Grows.refl _
  | create new =>
      rw [answer_create]
      exact Table.create_grows adds idNew
  | hash password => exact Table.Grows.refl _
  | verify hashed password => exact Table.Grows.refl _
  | now => exact Table.Grows.refl _

theorem grows_run {good : Role → Prop} {α : Type} {useCase : UseCase α} {memory : Memory}
    (only : useCase.Only (Request.Adds good))
    (idsNew : useCase.Along (ofMemory hasher).answer Request.IdNew memory) :
    memory.table.Grows (fun row => good row.role)
      ((ofMemory hasher).run useCase memory).2.table := by
  have step : ∀ request met, Request.Adds good request ∧ request.IdNew met →
      memory.table.Grows (fun row => good row.role) met.table →
      memory.table.Grows (fun row => good row.role)
        ((ofMemory hasher).answer request met).2.table := by
    rintro request met ⟨adds, idNew⟩ grows
    exact grows.trans (grows_answer hasher adds idNew)
  exact Program.forall_states step (only.along idsNew) (Table.Grows.refl _) _
    (Program.run_mem_states _ useCase memory)

theorem table_run {α : Type} {useCase : UseCase α} (memory : Memory)
    (only : useCase.Only (Request.Adds fun _ => False)) :
    ((ofMemory hasher).run useCase memory).2.table = memory.table := by
  have step : ∀ request met, Request.Adds (fun _ => False) request → met.table = memory.table →
      ((ofMemory hasher).answer request met).2.table = memory.table := by
    intro request met adds same
    cases request with
    | perform operation => exact (adds.table met).trans same
    | create new => exact adds.elim
    | hash password => exact same
    | verify hashed password => exact same
    | now => exact same
  have along : useCase.Along (ofMemory hasher).answer
      (fun request _ => Request.Adds (fun _ => False) request) memory :=
    only.along_of (fun _ _ adds => adds) memory
  exact Program.forall_states step along rfl _ (Program.run_mem_states _ useCase memory)

end Backend

end Accounts.Service
