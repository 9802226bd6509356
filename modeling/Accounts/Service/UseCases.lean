import Accounts.Failure
import Accounts.Password.Hasher
import Accounts.Service.Backend
import Accounts.Token.Signer

/-! Registration, login and profiles, the first administrator, and what the service signs and hashes
with. -/

namespace Accounts.Service

structure Session where
  token : String
  user : UserView
  deriving DecidableEq

def issueSession (signer : Token.Signer) (user : User) : UseCase (Except Failure Session) := do
  let now ← ask .now
  match signer.issue user.id.render user.username.text user.role.code now with
  | .error error => return .error (Failure.ofToken error)
  | .ok token => return .ok { token, user := user.view }

def ensureAbsent (search : Except Failure User) (taken : Failure) : Except Failure Unit :=
  match search with
  | .ok _ => .error taken
  | .error .userNotFound => .ok ()
  | .error failure => .error failure

structure Registration where
  username : String
  email : String
  password : String

def readNames (username email : String) : Except Failure (UserName × Email) := do
  let username ← (UserName.of username).mapError Failure.ofUserName
  let email ← (Email.of email).mapError Failure.ofEmail
  return (username, email)

def readPassword (password : String) : Except Failure Password.ClearText :=
  (Password.ClearText.of password).mapError Failure.ofPolicy

/-- Registers a user and issues a session. The searches tell early of a conflict; whether there is
one is decided when the user is created. -/
def register (signer : Token.Signer) (input : Registration) :
    UseCase (Except Failure Session) := do
  match readNames input.username input.email with
  | .error failure => return .error failure
  | .ok (username, email) =>
    match ensureAbsent (← ask (.perform (.findByUsername username.text))) .usernameTaken with
    | .error failure => return .error failure
    | .ok () =>
      match ensureAbsent (← ask (.perform (.findByEmail email.text))) .emailTaken with
      | .error failure => return .error failure
      | .ok () =>
        match readPassword input.password with
        | .error failure => return .error failure
        | .ok password =>
          let password ← ask (.hash password)
          match ← ask (.create { username, email, password, role := .user }) with
          | .error failure => return .error failure
          | .ok user => issueSession signer user

structure Login where
  username : String
  password : String

def foundUser (search : Except Failure User) : Except Failure (Option User) :=
  match search with
  | .ok user => .ok (some user)
  | .error .userNotFound => .ok none
  | .error failure => .error failure

/-- Issues a session to a user who gives the right password. An unknown name and a wrong password
are the same to the client. -/
def login (signer : Token.Signer) (input : Login) : UseCase (Except Failure Session) := do
  match Password.ClearText.of input.password with
  | .error _ => return .error .invalidCredentials
  | .ok password =>
    match foundUser (← ask (.perform (.findByUsername input.username))) with
    | .error failure => return .error failure
    | .ok user =>
      let verified ← ask (.verify (user.map User.password) password)
      match user, verified with
      | some user, true => issueSession signer user
      | _, _ => return .error .invalidCredentials

def profile (id : Uuid) : UseCase (Except Failure User) := ask (.perform (.findById id))

/-! The first administrator. -/

structure DefaultAdmin where
  username : String
  email : String
  password : String
  deriving DecidableEq, Repr

inductive Seeding
  | created (id : Uuid)
  | alreadyPresent
  deriving DecidableEq

/-- Creates the administrator unless the name is known. A name or an address that turns out to be
taken counts as known. -/
def seed (admin : DefaultAdmin) : UseCase (Except Failure Seeding) := do
  match readNames admin.username admin.email with
  | .error failure => return .error failure
  | .ok (username, email) =>
    match foundUser (← ask (.perform (.findByUsername username.text))) with
    | .error failure => return .error failure
    | .ok (some _) => return .ok .alreadyPresent
    | .ok none =>
      match readPassword admin.password with
      | .error failure => return .error failure
      | .ok password =>
        let password ← ask (.hash password)
        match ← ask (.create { username, email, password, role := .admin }) with
        | .ok user => return .ok (.created user.id)
        | .error .usernameTaken => return .ok .alreadyPresent
        | .error .emailTaken => return .ok .alreadyPresent
        | .error failure => return .error failure

/-! What the service signs and hashes with. -/

structure Instruments where
  signer : Token.Signer
  hasher : Password.Hasher

/-- The instruments with given settings. Bad settings fail here and never with a request. -/
def Instruments.of (token : Token.Settings) (cost : Password.Cost) :
    Except Failure Instruments := do
  let signer ← (Token.Signer.of token).mapError Failure.ofToken
  let hasher ← (Password.Hasher.of cost).mapError fun error => .configuration error.message
  return { signer, hasher }

end Accounts.Service
