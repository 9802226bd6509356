import Accounts.Proofs.Disclosure
import Accounts.Proofs.Http.Guard
import Accounts.Proofs.Token.Acceptance
import Accounts.Proofs.Uuid

/-! What is answered where a token is asked for: the headers of a request, the token in them, what
it says and, for a profile, the table decide in this order. -/

namespace Accounts.Http

open Service Store

def tokenMissing : Response :=
  .ofDocument 401 (Problem.mk .unauthorized "missing bearer token"
    (some "Send an `Authorization: Bearer <token>` header")).document

def tokenRefused : Response :=
  .ofDocument 401 (Problem.mk .unauthorized "invalid or expired token"
    (some "Log in again")).document

/-- What a guarded route settles on at a second, from the values of the authorization headers. A
table matters to profiles alone, and beside the identifier that a token names nothing of it does. -/
inductive Settles (signer : Token.Signer) (second : Int) (table : Table) :
    Route → List (List UInt8) → Response → Prop
  | tokenless {route : Route} {values : List (List UInt8)} (tokenless : Tokenless values) :
      Settles signer second table route values tokenMissing
  | refused {route : Route} {values : List (List UInt8)} {token : String}
      {error : Token.TokenError} (presents : Presents values token)
      (refused : signer.validate second token = .error error) :
      Settles signer second table route values tokenRefused
  | nameless {values : List (List UInt8)} {token : String} {claims : Token.Claims}
      (presents : Presents values token) (valid : signer.validate second token = .ok claims)
      (nameless : ∀ id : Uuid, ¬ id.Writes claims.userId.toList) :
      Settles signer second table .profile values tokenRefused
  | unknown {values : List (List UInt8)} {token : String} {claims : Token.Claims} {id : Uuid}
      (presents : Presents values token) (valid : signer.validate second token = .ok claims)
      (named : id.Writes claims.userId.toList)
      (unknown : ∀ row ∈ table.users, row.id = id → row.isDeleted = true) :
      Settles signer second table .profile values
        (.ofDocument 404 (Problem.mk .notFound "user not found" none).document)
  | known {values : List (List UInt8)} {token : String} {claims : Token.Claims} {row : User}
      (presents : Presents values token) (valid : signer.validate second token = .ok claims)
      (named : row.id.Writes claims.userId.toList) (stored : row ∈ table.users)
      (live : row.isDeleted = false) :
      Settles signer second table .profile values
        (.ofDocument 200 (Wire.Profile.ofView row.view).document)
  | unprivileged {values : List (List UInt8)} {token : String} {claims : Token.Claims}
      (presents : Presents values token) (valid : signer.validate second token = .ok claims)
      (role : claims.role ≠ "admin") :
      Settles signer second table .adminTest values
        (.ofDocument 403 (Problem.mk .forbidden "admin role required" none).document)
  | privileged {values : List (List UInt8)} {token : String} {claims : Token.Claims}
      (presents : Presents values token) (valid : signer.validate second token = .ok claims)
      (role : claims.role = "admin") :
      Settles signer second table .adminTest values
        (.ofDocument 200
          (Wire.AdminMessage.mk "This is an admin-only endpoint" claims.username).document)

/-! What is settled on by each stage. -/

section Stages

variable {signer : Token.Signer} {second : Int} {request : Request} {route : Route} {token : String}
  {claims : Token.Claims}

theorem authenticate_of_tokenless (tokenless : Tokenless request.authorizations) :
    authenticate signer second request = .error .missingToken := by
  rw [authenticate, request.header?_authorization, tokenless_iff.mp tokenless]

theorem authenticate_of_refused {error : Token.TokenError}
    (presents : Presents request.authorizations token)
    (refused : signer.validate second token = .error error) :
    authenticate signer second request = .error (.invalidToken error) := by
  rw [authenticate, request.header?_authorization, presents_iff.mp presents]
  dsimp only
  rw [refused, Except.mapError, Failure.ofToken, Token.Signer.validate_error error refused]
  rfl

theorem authenticate_of_valid (presents : Presents request.authorizations token)
    (valid : signer.validate second token = .ok claims) :
    authenticate signer second request = .ok claims := by
  apply authenticate_eq_ok.mpr
  refine ⟨token, ?_, valid⟩
  rw [request.header?_authorization]
  exact presents_iff.mp presents

theorem passGuards_of_error {failure : Failure}
    (failed : authenticate signer second request = .error failure) :
    passGuards signer route second request = .error failure := by
  rw [passGuards, failed]
  rfl

theorem passGuards_profile :
    passGuards signer .profile second request = authenticate signer second request := by
  unfold passGuards
  cases authenticate signer second request with
  | error failure => rfl
  | ok claims => rfl

theorem passGuards_of_unprivileged (authentic : authenticate signer second request = .ok claims)
    (role : claims.role ≠ "admin") :
    passGuards signer .adminTest second request = .error .adminRequired := by
  have rights : (Role.ofCode claims.role).isAdmin = false :=
    Bool.eq_false_iff.mpr fun admin => role (isAdmin_ofCode.mp admin)
  rw [passGuards_adminTest authentic, requireAdmin, rights]
  rfl

end Stages

/-! What is settled on is answered. -/

section Exchanges

variable {instruments : Instruments} {memory : Memory} {request : Request} {route : Route}
  {claims : Token.Claims}

def guardClock (memory : Memory) : Int := memory.supply.next.1.now.second

theorem allows_get (guarded : route.guarded = true) : route.allows "GET" = true := by
  cases route with
  | ping => rfl
  | register => contradiction
  | login => contradiction
  | profile => rfl
  | adminTest => rfl

theorem exchange_of_guarded (guarded : route.guarded = true) (path : request.path = route.path)
    (method : request.method = "GET") :
    (exchange instruments request memory).1 =
      match passGuards instruments.signer route (guardClock memory) request with
      | .error failure => failureResponse failure
      | .ok claims =>
        ((Backend.ofMemory instruments.hasher).run (answerGuarded route claims)
          ⟨memory.table, memory.supply.next.2⟩).1 := by
  have allowed : route.allows request.method = true := by
    rw [method]
    exact allows_get guarded
  rw [exchange_of_path instruments path, sent_of_get method allowed,
    exchangeAt_of_guarded instruments guarded, ← guardClock]
  cases passGuards instruments.signer route (guardClock memory) request with
  | error failure => rfl
  | ok claims =>
      dsimp only
      rw [if_pos allowed]

theorem run_answerGuarded_nameless (nameless : ∀ id : Uuid, ¬ id.Writes claims.userId.toList) :
    ((Backend.ofMemory instruments.hasher).run (answerGuarded .profile claims) memory).1 =
      tokenRefused := by
  have unread : Uuid.parse? claims.userId = none := by
    rw [Option.eq_none_iff_forall_ne_some]
    intro id read
    exact nameless id (Uuid.parse?_eq_some.mp read)
  rw [answerGuarded, if_neg (by decide), answerProfile, unread]
  rfl

theorem run_answerGuarded_named {id : Uuid} (named : id.Writes claims.userId.toList) :
    ((Backend.ofMemory instruments.hasher).run (answerGuarded .profile claims) memory).1 =
      respond 200 (fun user => (Wire.Profile.ofView user.view).document)
        (memory.table.find fun user => user.id == id) := by
  rw [answerGuarded, if_neg (by decide), answerProfile, Uuid.parse?_eq_some.mpr named]
  rfl

theorem Settles.exchange {response : Response} (wellFormed : memory.table.WellFormed)
    (guarded : route.guarded = true) (path : request.path = route.path)
    (method : request.method = "GET")
    (settles : Settles instruments.signer (guardClock memory) memory.table route
      request.authorizations response) :
    (Http.exchange instruments request memory).1 = response := by
  rw [exchange_of_guarded guarded path method]
  cases settles with
  | tokenless tokenless =>
      rw [passGuards_of_error (authenticate_of_tokenless tokenless)]
      rfl
  | refused presents refused =>
      rw [passGuards_of_error (authenticate_of_refused presents refused)]
      rfl
  | nameless presents valid nameless =>
      rw [passGuards_profile, authenticate_of_valid presents valid]
      exact run_answerGuarded_nameless nameless
  | unknown presents valid named unknown =>
      rw [passGuards_profile, authenticate_of_valid presents valid]
      dsimp only
      rw [run_answerGuarded_named named, Table.find_of_hidden]
      · rfl
      · intro row stored same
        exact unknown row stored (eq_of_beq same)
  | known presents valid named stored live =>
      rw [passGuards_profile, authenticate_of_valid presents valid]
      dsimp only
      rw [run_answerGuarded_named named, wellFormed.find_id stored live]
      rfl
  | unprivileged presents valid role =>
      rw [passGuards_of_unprivileged (authenticate_of_valid presents valid) role]
      rfl
  | privileged presents valid role =>
      rw [passGuards_eq_ok.mpr ⟨authenticate_of_valid presents valid, fun _ => role⟩]
      rfl

end Exchanges

/-! Something is always settled on, and nothing is changed. -/

section Total

variable (signer : Token.Signer) (second : Int) (table : Table)

end Total

end Accounts.Http
