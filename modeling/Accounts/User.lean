import Accounts.Email
import Accounts.Password
import Accounts.Time
import Accounts.UserName
import Accounts.Uuid

/-! Users and their roles. -/

namespace Accounts

inductive Role
  | user
  | admin
  | other (code : String)
  deriving DecidableEq, Repr

namespace Role

def code : Role → String
  | .user => "user"
  | .admin => "admin"
  | .other code => code

def ofCode (code : String) : Role :=
  if code = "user" then .user
  else if code = "admin" then .admin
  else .other code

def isAdmin : Role → Bool
  | .admin => true
  | _ => false

theorem code_ofCode (code : String) : (ofCode code).code = code := by
  unfold ofCode
  split
  · simp [Role.code, *]
  · split <;> simp [Role.code, *]

def ofJson (value : Json.Value) : Except String Role := ofCode <$> value.asText

end Role

/-- A user as stored. A deleted user stays in store and is hidden. -/
structure User where
  id : Uuid
  username : UserName
  email : Email
  password : Password.Hashed
  role : Role
  createdAt : Time.Instant
  updatedAt : Time.Instant
  deletedAt : Option Time.Instant
  deriving DecidableEq

structure NewUser where
  username : UserName
  email : Email
  password : Password.Hashed
  role : Role
  deriving DecidableEq

structure UserView where
  id : Uuid
  username : UserName
  email : Email
  role : Role
  createdAt : Time.Instant
  updatedAt : Time.Instant
  deriving DecidableEq

namespace User

def isDeleted (user : User) : Bool := user.deletedAt.isSome

def view (user : User) : UserView where
  id := user.id
  username := user.username
  email := user.email
  role := user.role
  createdAt := user.createdAt
  updatedAt := user.updatedAt

end User

end Accounts
