import Accounts.Http.Api
import Accounts.Proofs.Service.Sessions
import Accounts.Service.UseCases

/-! What the service answers over HTTP from a store in memory, route by route. -/

namespace Accounts.Http

open Service Store

variable {request : Request} {route : Route} {memory : Memory}

def sent (route : Route) (request : Request) (response : Response) : Response :=
  let response := response.withHeaders (allowHeader route request.method)
  if request.method = "HEAD" then response.withoutBody else response

theorem status_sent (response : Response) :
    (sent route request response).status = response.status := by
  unfold sent
  dsimp only
  split
  · rfl
  · rfl

theorem body_sent (response : Response) :
    (sent route request response).body = response.body ∨
      (sent route request response).body = "" := by
  unfold sent
  dsimp only
  split
  · exact .inr rfl
  · exact .inl rfl

theorem sent_of_allowed (method : request.method ≠ "HEAD")
    (allowed : route.allows request.method = true) (response : Response) :
    sent route request response = response := by
  have unmarked : response.withHeaders [] = response := by
    rw [Response.withHeaders, List.append_nil]
  rw [sent, allowHeader, if_pos allowed, unmarked]
  exact if_neg method

theorem sent_of_get (method : request.method = "GET") (allowed : route.allows request.method = true)
    (response : Response) : sent route request response = response := by
  apply sent_of_allowed _ allowed
  rw [method]
  decide

theorem ofPath?_eq_some {path : String} : Route.ofPath? path = some route ↔ path = route.path := by
  constructor
  · intro found
    unfold Route.ofPath? at found
    have same := List.find?_some found
    exact (of_decide_eq_true same).symm
  · rintro rfl
    cases route with
    | ping => rfl
    | register => rfl
    | login => rfl
    | profile => rfl
    | adminTest => rfl

/-! A request and its response. -/

variable (instruments : Instruments)

def exchange (request : Request) : StateM Memory Response :=
  (Backend.ofMemory instruments.hasher).run (answer instruments.signer request)

def exchangeAt (route : Route) (request : Request) : StateM Memory Response :=
  (Backend.ofMemory instruments.hasher).run (answerRoute instruments.signer route request)

theorem exchange_of_none (missing : Route.ofPath? request.path = none) :
    exchange instruments request memory = (Response.bare 404, memory) := by
  rw [exchange, answer, missing, answerAt]
  by_cases head : request.method = "HEAD"
  · simp only [head]
    rfl
  · simp only [head]
    rfl

theorem exchange_of_path (path : request.path = route.path) :
    exchange instruments request memory =
      (sent route request (exchangeAt instruments route request memory).1,
        (exchangeAt instruments route request memory).2) := by
  rw [exchange, answer, ofPath?_eq_some.mpr path, answerAt, Backend.run, Program.run_bind,
    Program.run_bind]
  rfl

theorem exchangeAt_of_guarded (guarded : route.guarded = true) :
    exchangeAt instruments route request memory =
      match passGuards instruments.signer route memory.supply.next.1.now.second request with
      | .error failure => (failureResponse failure, ⟨memory.table, memory.supply.next.2⟩)
      | .ok claims =>
        if route.allows request.method then
          (Backend.ofMemory instruments.hasher).run (answerGuarded route claims)
            ⟨memory.table, memory.supply.next.2⟩
        else (methodNotAllowed, ⟨memory.table, memory.supply.next.2⟩) := by
  have asked : Program.run (Backend.ofMemory instruments.hasher).answer (ask .now) memory =
      (memory.supply.next.1.now, ⟨memory.table, memory.supply.next.2⟩) := rfl
  rw [exchangeAt, answerRoute, if_pos guarded, Backend.run, Program.run_bind, asked]
  dsimp only
  cases passGuards instruments.signer route memory.supply.next.1.now.second request with
  | error failure => rfl
  | ok claims =>
      dsimp only
      split
      · rfl
      · rfl

theorem exchangeAt_of_open (unguarded : route.guarded = false) :
    exchangeAt instruments route request memory =
      if route.allows request.method then
        (Backend.ofMemory instruments.hasher).run
          (answerOpen instruments.signer route request) memory
      else (methodNotAllowed, memory) := by
  rw [exchangeAt, answerRoute, unguarded, if_neg Bool.false_ne_true]
  split
  · rfl
  · rfl

/-! Guards. -/

theorem isAdmin_ofCode {code : String} : (Role.ofCode code).isAdmin = true ↔ code = "admin" := by
  unfold Role.ofCode
  by_cases user : code = "user"
  · rw [if_pos user, user]
    decide
  · rw [if_neg user]
    by_cases admin : code = "admin"
    · rw [if_pos admin]
      exact iff_of_true rfl admin
    · rw [if_neg admin]
      exact iff_of_false Bool.false_ne_true admin

theorem passGuards_adminTest {signer : Token.Signer} {second : Int} {claims : Token.Claims}
    (authentic : authenticate signer second request = .ok claims) :
    passGuards signer .adminTest second request = requireAdmin (some claims) := by
  rw [passGuards, authentic]
  rfl

theorem passGuards_eq_ok {signer : Token.Signer} {second : Int} {claims : Token.Claims} :
    passGuards signer route second request = .ok claims ↔
      authenticate signer second request = .ok claims ∧
        (route = .adminTest → claims.role = "admin") := by
  unfold passGuards
  cases authenticate signer second request with
  | error failure => exact iff_of_false nofun fun both => nomatch both.1
  | ok known =>
      change (if route = .adminTest then requireAdmin (some known) else .ok known) = _ ↔ _
      by_cases admin : route = .adminTest
      · rw [if_pos admin, requireAdmin]
        by_cases rights : (Role.ofCode known.role).isAdmin = true
        · rw [if_pos rights]
          constructor
          · rintro same
            obtain rfl := Except.ok.inj same
            exact ⟨rfl, fun _ => isAdmin_ofCode.mp rights⟩
          · exact And.left
        · rw [if_neg rights]
          refine iff_of_false nofun ?_
          rintro ⟨same, named⟩
          obtain rfl := Except.ok.inj same
          exact rights (isAdmin_ofCode.mpr (named admin))
      · rw [if_neg admin]
        exact ⟨fun same => ⟨same, fun here => absurd here admin⟩, And.left⟩

theorem authenticate_eq_ok {signer : Token.Signer} {second : Int} {claims : Token.Claims} :
    authenticate signer second request = .ok claims ↔
      ∃ token, (request.header? "authorization").bind bearerToken? = some token ∧
        signer.validate second token = .ok claims := by
  unfold authenticate
  cases (request.header? "authorization").bind bearerToken? with
  | none => exact iff_of_false nofun fun ⟨token, presented, _⟩ => nomatch presented
  | some token =>
      change (signer.validate second token).mapError Failure.ofToken = _ ↔ _
      constructor
      · intro passed
        cases validated : signer.validate second token with
        | error error =>
            rw [validated] at passed
            contradiction
        | ok known =>
            rw [validated] at passed
            obtain rfl := Except.ok.inj passed
            exact ⟨token, rfl, validated⟩
      · rintro ⟨same, presented, validated⟩
        obtain rfl := Option.some.inj presented
        rw [validated]
        rfl

theorem problem_status_ne_ok (kind : Kind) : kind.status ≠ 200 := by
  cases kind with
  | _ => decide

/-- An answer of success at the route for administrators tells that the claims of the token that was
presented have the role of an administrator. -/
theorem exchange_adminTest (path : request.path = Route.adminTest.path)
    (passed : (exchange instruments request memory).1.status = 200) :
    ∃ token claims, (request.header? "authorization").bind bearerToken? = some token ∧
      instruments.signer.validate memory.supply.next.1.now.second token = .ok claims ∧
      claims.role = "admin" := by
  rw [exchange_of_path instruments path, status_sent,
    exchangeAt_of_guarded instruments rfl] at passed
  cases guards : passGuards instruments.signer .adminTest memory.supply.next.1.now.second
      request with
  | error failure =>
      rw [guards] at passed
      exact absurd passed (problem_status_ne_ok failure.problem.kind)
  | ok claims =>
      obtain ⟨authentic, admin⟩ := passGuards_eq_ok.mp guards
      obtain ⟨token, presented, validated⟩ := authenticate_eq_ok.mp authentic
      exact ⟨token, claims, presented, validated, admin rfl⟩

theorem exchange_profile {claims : Token.Claims} {id : Uuid}
    (path : request.path = Route.profile.path) (method : Route.profile.allows request.method = true)
    (authentic : authenticate instruments.signer memory.supply.next.1.now.second request =
      .ok claims) (named : Uuid.parse? claims.userId = some id) :
    (exchange instruments request memory).1 = sent .profile request
      (respond 200 (fun user => (Wire.Profile.ofView user.view).document)
        (memory.table.find fun user => user.id == id)) := by
  have guards : passGuards instruments.signer .profile memory.supply.next.1.now.second request =
      .ok claims := passGuards_eq_ok.mpr ⟨authentic, nofun⟩
  rw [exchange_of_path instruments path, exchangeAt_of_guarded instruments rfl, guards]
  dsimp only
  rw [if_pos method, answerGuarded, if_neg (by decide), Backend.run, Program.run_bind,
    answerProfile, named]
  rfl

/-! What a request over HTTP may ask for. -/

section Asking

variable (signer : Token.Signer)

abbrev AddsUsers {α : Type} (useCase : UseCase α) : Prop :=
  useCase.Only (Service.Request.Adds (· = .user))

theorem answerGuarded_only {good : Role → Prop} (claims : Token.Claims) :
    (answerGuarded route claims).Only (Service.Request.Adds good) := by
  unfold answerGuarded
  split
  · trivial
  · refine Program.Only.bind ?_ fun result => trivial
    unfold answerProfile
    cases Uuid.parse? claims.userId with
    | none => trivial
    | some id => exact profile_only id

theorem answerRegistration_only (input : Wire.Registration) :
    AddsUsers (answerRegistration signer input) := by
  unfold answerRegistration
  cases input.check with
  | error failure => trivial
  | ok accepted => exact @register_only (· = .user) signer rfl _

theorem answerOpen_only : AddsUsers (answerOpen signer route request) := by
  cases route with
  | register =>
      unfold answerOpen
      cases readDocument Wire.Registration.reader request with
      | error response => trivial
      | ok input =>
          exact Program.Only.bind (answerRegistration_only signer input) fun result => trivial
  | login =>
      unfold answerOpen
      cases readDocument Wire.Login.reader request with
      | error response => trivial
      | ok input => exact Program.Only.bind (login_only signer _) fun result => trivial
  | ping => trivial
  | profile => trivial
  | adminTest => trivial

theorem answerRoute_only : AddsUsers (answerRoute signer route request) := by
  unfold answerRoute
  split
  · refine ⟨trivial, fun now => ?_⟩
    dsimp only [Program.andThen]
    cases passGuards signer route now.second request with
    | error failure => trivial
    | ok claims =>
        dsimp only
        split
        · exact answerGuarded_only claims
        · trivial
  · split
    · exact answerOpen_only signer
    · trivial

theorem answer_only (request : Request) : AddsUsers (answer signer request) := by
  unfold answer answerAt
  cases Route.ofPath? request.path with
  | none => trivial
  | some route =>
      refine Program.Only.bind ?_ fun response => trivial
      exact answerRoute_only signer

end Asking

end Accounts.Http
