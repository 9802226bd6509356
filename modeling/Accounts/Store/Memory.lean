import Accounts.Hash.Sha256
import Accounts.Password.Hasher
import Accounts.Store.Operation
import Accounts.Time
import Accounts.Uuid

/-! A table of users in memory, what chance and the clock supply it with, and a store that keeps one,
where a transaction works on a copy of the table. -/

namespace Accounts

structure Fresh where
  id : Uuid
  salt : Password.Salt
  now : Time.Instant

structure Supply where
  piece : Nat → Fresh
  taken : Nat

def Supply.next (supply : Supply) : Fresh × Supply :=
  (supply.piece supply.taken, { supply with taken := supply.taken + 1 })

namespace Supply

def seedAt (seed : List UInt8) (place : Nat) : List UInt8 :=
  seed ++ (Text.decimal place).map fun c => UInt8.ofNat c.toNat

def firstHalf (message : List UInt8) : Vector UInt8 16 :=
  ⟨((Hash.Sha256.digest message).take 16).toArray, by simp [Hash.Sha256.length_digest]⟩

def secondHalf (message : List UInt8) : Vector UInt8 16 :=
  ⟨((Hash.Sha256.digest message).drop 16).toArray, by simp [Hash.Sha256.length_digest]⟩

def ofSeed (seed : List UInt8) (now : Time.Instant) : Supply where
  piece := fun place =>
    { id := Uuid.ofRandom (firstHalf (seedAt seed place)),
      salt := secondHalf (seedAt seed place), now }
  taken := 0

end Supply

end Accounts

namespace Accounts.Store

/-! Tables. -/

structure Table where
  entries : List (Uuid × User)
  deriving DecidableEq

namespace Table

def empty : Table := ⟨[]⟩

instance : Inhabited Table := ⟨empty⟩

/-- All users, deleted ones included. -/
def users (table : Table) : List User := table.entries.map Prod.snd

def others (table : Table) (except : Option Uuid) : List User :=
  table.users.filter fun user => some user.id ≠ except

/-- Refuses a name or an address that another user has, be it a deleted one. The name comes
first. -/
def checkUnique (table : Table) (username email : String) (except : Option Uuid) :
    Except Failure Unit :=
  if (table.others except).any fun user => user.username.text == username then
    .error .usernameTaken
  else if (table.others except).any fun user => user.email.text == email then
    .error .emailTaken
  else .ok ()

def get? (table : Table) (key : Uuid) : Option User :=
  (table.entries.find? fun entry => entry.1 = key).map Prod.snd

def live? (table : Table) (key : Uuid) : Option User :=
  (table.get? key).filter fun user => !user.isDeleted

def put (table : Table) (key : Uuid) (user : User) : Table :=
  if table.entries.any fun entry => entry.1 = key then
    ⟨table.entries.map fun entry => if entry.1 = key then (key, user) else entry⟩
  else ⟨table.entries ++ [(key, user)]⟩

def find (table : Table) (predicate : User → Bool) : Except Failure User :=
  match table.users.find? fun user => !user.isDeleted && predicate user with
  | some user => .ok user
  | none => .error .userNotFound

def create (table : Table) (fresh : Fresh) (new : NewUser) : Except Failure User × Table :=
  match table.checkUnique new.username.text new.email.text none with
  | .error failure => (.error failure, table)
  | .ok () =>
    let user : User :=
      { id := fresh.id, username := new.username, email := new.email, password := new.password,
        role := new.role, createdAt := fresh.now, updatedAt := fresh.now, deletedAt := none }
    (.ok user, table.put fresh.id user)

def update (table : Table) (fresh : Fresh) (user : User) : Except Failure User × Table :=
  match table.live? user.id with
  | none => (.error .userNotFound, table)
  | some row =>
    match table.checkUnique user.username.text user.email.text (some user.id) with
    | .error failure => (.error failure, table)
    | .ok () =>
      let row :=
        { row with
          username := user.username
          email := user.email
          password := user.password
          role := user.role
          updatedAt := fresh.now }
      (.ok row, table.put user.id row)

/-- Deletes a user, who stays in the table. -/
def delete (table : Table) (fresh : Fresh) (id : Uuid) : Except Failure Unit × Table :=
  match table.live? id with
  | none => (.error .userNotFound, table)
  | some row =>
    (.ok (), table.put id { row with deletedAt := some fresh.now, updatedAt := fresh.now })

def perform (table : Table) (fresh : Fresh) :
    (operation : Operation) → operation.Result × Table
  | .create user => table.create fresh user
  | .findByUsername username => (table.find fun user => user.username.text == username, table)
  | .findByEmail email =>
    let email := Email.normalize email
    (table.find fun user => user.email.text == email, table)
  | .findById id => (table.find fun user => user.id == id, table)
  | .update user => table.update fresh user
  | .delete id => table.delete fresh id

end Table

/-! Stores. -/

structure Memory where
  table : Table
  supply : Supply

namespace Memory

def perform (operation : Operation) : StateM Memory operation.Result := fun memory =>
  let (fresh, supply) := memory.supply.next
  let (result, table) := memory.table.perform fresh operation
  (result, { table, supply })

/-- A transaction: the copy that it works on, and the table that it leaves alone until it is
committed. -/
structure Staging where
  copy : Memory
  committed : Table

def Staging.perform (operation : Operation) : StateM Staging operation.Result := fun staging =>
  let (result, copy) := Memory.perform operation staging.copy
  (result, { staging with copy })

def Staging.scope : Scope (StateM Staging) where
  commit := fun staging => (.ok (), { staging with committed := staging.copy.table })
  rollback := pure (.ok ())

def stage (memory : Memory) : Staging := ⟨memory, memory.table⟩

def Staging.close (staging : Staging) : Memory := ⟨staging.committed, staging.copy.supply⟩

def transact {α : Type} (work : Work α) : StateM Memory (Ending α) := fun memory =>
  let (ending, staging) := Staging.scope.run (work.run Staging.perform) (stage memory)
  (ending, staging.close)

def abandon {α : Type} (work : Work α) : StateM Memory Unit := fun memory =>
  ((), ((work.run Staging.perform (stage memory)).2).close)

end Memory

end Accounts.Store
