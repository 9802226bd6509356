import Accounts.Password.Hasher
import Accounts.Store.Operation
import Accounts.Time

/-! A store behind an SQL server: the statements of the operations, the reading of the answers, and
what becomes of instants. -/

namespace Accounts.Store

inductive Statement
  | begin
  | commit
  | rollback
  | insert (username email hash role : String)
  | selectByUsername (username : String)
  | selectByEmail (email : String)
  | selectById (id : Uuid)
  | update (id : Uuid) (username email hash role : String)
  | softDelete (id : Uuid)
  deriving DecidableEq

structure Columns where
  userId : Option Uuid
  username : Option String
  email : Option String
  passwordHash : Option String
  role : Option String
  createdAt : Option Time.Instant
  updatedAt : Option Time.Instant
  deletedAt : Option Time.Instant
  deriving DecidableEq

structure Row where
  userId : Uuid
  username : String
  email : String
  passwordHash : String
  role : String
  createdAt : Time.Instant
  updatedAt : Time.Instant
  deletedAt : Option Time.Instant
  deriving DecidableEq

inductive Answer
  /-- The rows returned and the number of rows affected. -/
  | done (rows : List Columns) (affected : Nat)
  /-- An error. -/
  | refused (report : Report)
  /-- The connection has been closed. -/
  | hungUp
  deriving DecidableEq

def brokenConnection : StorageError := .io "unexpected end of file"

def requireColumn {α : Type} (column : String) (value : Option α) : Except StorageError α :=
  match value with
  | some value => .ok value
  | none => .error (.columnDecode column "unexpected null; try decoding as an `Option`")

def Columns.row (columns : Columns) : Except StorageError Row := do
  let userId ← requireColumn "user_id" columns.userId
  let username ← requireColumn "username" columns.username
  let email ← requireColumn "email" columns.email
  let passwordHash ← requireColumn "password_hash" columns.passwordHash
  let role ← requireColumn "role" columns.role
  let createdAt ← requireColumn "created_at" columns.createdAt
  let updatedAt ← requireColumn "updated_at" columns.updatedAt
  pure
    { userId, username, email, passwordHash, role, createdAt, updatedAt,
      deletedAt := columns.deletedAt }

/-- The user in a row. A hash that cannot be read is a fault of the store. -/
def Row.user (row : Row) : Except Failure User :=
  match Password.Hashed.of row.passwordHash with
  | .error error =>
    .error (.internal ("stored hash for user " ++ row.userId.render ++ " is unusable: " ++
      error.message))
  | .ok password =>
    .ok
      { id := row.userId, username := ⟨row.username⟩, email := ⟨row.email⟩, password,
        role := Role.ofCode row.role, createdAt := row.createdAt, updatedAt := row.updatedAt,
        deletedAt := row.deletedAt }

def Columns.user (columns : Columns) : Except Failure User :=
  match columns.row with
  | .error error => .error (.storage error)
  | .ok row => row.user

/-- The failure to write a user: a violated unique constraint tells which of name and address is
taken. -/
def writeFailure (report : Report) : Failure :=
  if report.isUniqueViolation then
    if report.violated = some "users_username_key" then .usernameTaken
    else if report.violated = some "users_email_key" then .emailTaken
    else .storage (.reported report)
  else .storage (.reported report)

def updateStatement (user : User) : Statement :=
  .update user.id user.username.text user.email.text user.password.phc user.role.code

namespace Operation

def statement : Operation → Statement
  | .create user =>
    .insert user.username.text user.email.text user.password.phc user.role.code
  | .findByUsername username => .selectByUsername username
  | .findByEmail email => .selectByEmail (Email.normalize email)
  | .findById id => .selectById id
  | .update user => updateStatement user
  | .delete id => .softDelete id

def searchResult : Answer → Except Failure User
  | .done [] _ => .error .userNotFound
  | .done (columns :: _) _ => columns.user
  | .refused report => .error (.storage (.reported report))
  | .hungUp => .error (.storage brokenConnection)

def result : (operation : Operation) → Answer → operation.Result
  | .create _, .done [] _ => .error (.storage .rowNotFound)
  | .create _, .done (columns :: _) _ => columns.user
  | .create _, .refused report => .error (writeFailure report)
  | .create _, .hungUp => .error (.storage brokenConnection)
  | .findByUsername _, answer => searchResult answer
  | .findByEmail _, answer => searchResult answer
  | .findById _, answer => searchResult answer
  | .update _, .done [] _ => .error .userNotFound
  | .update _, .done (columns :: _) _ => columns.user
  | .update _, .refused report => .error (writeFailure report)
  | .update _, .hungUp => .error (.storage brokenConnection)
  | .delete _, .done _ affected => if affected = 0 then .error .userNotFound else .ok ()
  | .delete _, .refused report => .error (.storage (.reported report))
  | .delete _, .hungUp => .error (.storage brokenConnection)

end Operation

/-- A server: how it answers a statement, and what it does to a transaction that is left open when
its connection is given back. -/
structure Server (σ : Type) where
  answer : Statement → StateM σ Answer
  release : StateM σ Unit

structure Link (σ : Type) where
  server : Server σ
  state : σ
  connected : Bool := true
  barred : Option StorageError := none

namespace Link

variable {σ : Type}

def send (statement : Statement) : StateM (Link σ) Answer := fun link =>
  if link.connected then
    let (answer, state) := link.server.answer statement link.state
    (answer, { link with state, connected := answer ≠ .hungUp })
  else (.hungUp, link)

def connect : StateM (Link σ) (Except Failure Unit) := fun link =>
  match link.barred with
  | some error => (.error (.storage error), link)
  | none => (.ok (), { link with connected := true })

def release : StateM (Link σ) Unit := fun link =>
  if link.connected then ((), { link with state := (link.server.release link.state).2 })
  else ((), link)

def performOpen (operation : Operation) : StateM (Link σ) operation.Result := do
  let answer ← send operation.statement
  return operation.result answer

def perform (operation : Operation) : StateM (Link σ) operation.Result := do
  match ← connect with
  | .error failure => return .error failure
  | .ok () => performOpen operation

def plainResult : Answer → Except Failure Unit
  | .done _ _ => .ok ()
  | .refused report => .error (.storage (.reported report))
  | .hungUp => .error (.storage brokenConnection)

def finishBy (statement : Statement) : StateM (Link σ) (Except Failure Unit) := do
  match plainResult (← send statement) with
  | .ok () => return .ok ()
  | .error failure =>
    release
    return .error failure

def scope : Scope (StateM (Link σ)) where
  commit := finishBy .commit
  rollback := finishBy .rollback

def begin : StateM (Link σ) (Except Failure Unit) := do
  match ← connect with
  | .error failure => return .error failure
  | .ok () => return plainResult (← send .begin)

def transact {α : Type} (work : Work α) : StateM (Link σ) (Ending α) := do
  match ← begin with
  | .error failure => return .returned (.error failure)
  | .ok () => scope.run (work.run performOpen)

def abandon {α : Type} (work : Work α) : StateM (Link σ) (Except Failure Unit) := do
  match ← begin with
  | .error failure => return .error failure
  | .ok () =>
    let _ ← work.run performOpen
    release
    return .ok ()

end Link

/-! A server that follows a script. -/

/-- The answers to come, the statements sent so far, and those of them that undid a transaction
whose connection was given back open. -/
structure Script where
  answers : List Answer
  sent : List Statement := []
  released : List Statement := []

namespace Script

/-- Answers a statement; once the script has been used up everything is done without effect. -/
def answer (statement : Statement) : StateM Script Answer := fun script =>
  let sent := script.sent ++ [statement]
  match script.answers with
  | [] => (.done [] 0, { script with sent })
  | answer :: answers => (answer, { script with answers, sent })

def release : StateM Script Unit := fun script =>
  ((), { script with released := script.released ++ [.rollback] })

def server : Server Script := { answer, release }

def rest (script : Script) : Script := { answers := script.answers }

end Script

/-! Instants as a server keeps them: in whole microseconds from the start of 2000. -/

def storeEpoch : Int := 946684800

/-- The microseconds from the start of 2000 to an instant; what is left of the last one does not
count. A leap second counts as the second after it. -/
def microseconds (instant : Time.Instant) : Int :=
  ((instant.second - storeEpoch) * 1000000000 + instant.nano).tdiv 1000

def ofMicroseconds? (count : Int) : Option Time.Instant :=
  Time.Instant.of? (storeEpoch + count / 1000000) ((count % 1000000).toNat * 1000)

def keptInstant? (instant : Time.Instant) : Option Time.Instant :=
  ofMicroseconds? (microseconds instant)

end Accounts.Store
