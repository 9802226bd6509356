import Accounts.Store.Memory
import Accounts.Store.Operation
import Accounts.Store.Sql

/-! What the use cases ask for, and the stores that answer. -/

namespace Accounts.Service

inductive Request
  /-- One operation on the store, outside any transaction. -/
  | perform (operation : Store.Operation)
  /-- A transaction that creates one user. -/
  | create (user : NewUser)
  /-- The hash of a password. -/
  | hash (password : Password.ClearText)
  /-- Whether a password belongs to a hash; without a hash the work is done in vain. -/
  | verify (hashed : Option Password.Hashed) (password : Password.ClearText)
  /-- The time. -/
  | now

abbrev Request.Reply : Request → Type
  | .perform operation => operation.Result
  | .create _ => Except Failure User
  | .hash _ => Password.Hashed
  | .verify _ _ => Bool
  | .now => Time.Instant

abbrev UseCase (α : Type) : Type := Program Request Request.Reply α

def ask (request : Request) : UseCase request.Reply := Program.request request

/-- Whether the reply to a request takes work that is done elsewhere and has to be waited for. -/
def Request.waits : Request → Bool
  | .hash _ | .verify _ _ => true
  | _ => false

structure Backend (m : Type → Type) where
  hasher : Password.Hasher
  fresh : m Fresh
  perform : (operation : Store.Operation) → m operation.Result
  transact : Store.Work User → m (Store.Ending User)

def Backend.answer {m : Type → Type} [Monad m] (backend : Backend m) :
    (request : Request) → m request.Reply
  | .perform operation => backend.perform operation
  | .create user => do
    let ending ← backend.transact (.create user)
    pure ending.result
  | .hash password => do
    let fresh ← backend.fresh
    pure (backend.hasher.hash fresh.salt password)
  | .verify hashed password => pure (Password.verifiesAny hashed password)
  | .now => do
    let fresh ← backend.fresh
    pure fresh.now

def Backend.run {m : Type → Type} [Monad m] {α : Type} (backend : Backend m)
    (useCase : UseCase α) : m α :=
  Program.run backend.answer useCase

/-- Runs a use case that is given up where it would have to wait. -/
def Backend.runAtOnce {m : Type → Type} [Monad m] {α : Type} (backend : Backend m)
    (useCase : UseCase α) : m (Option α) :=
  OptionT.run <| Program.run
    (fun request =>
      if request.waits then OptionT.mk (pure none) else OptionT.lift (backend.answer request))
    useCase

/-! The stores. -/

namespace Backend

open Store

def takeFresh : StateM Memory Fresh := fun memory =>
  let (fresh, supply) := memory.supply.next
  (fresh, { memory with supply })

def ofMemory (hasher : Password.Hasher) : Backend (StateM Memory) where
  hasher
  fresh := takeFresh
  perform := Memory.perform
  transact := Memory.transact

variable {σ : Type}

def onLink {α : Type} (action : StateM (Link σ) α) : StateM (Link σ × Supply) α :=
  fun (link, supply) =>
    let (value, link) := action link
    (value, link, supply)

def takeBeside : StateM (Link σ × Supply) Fresh := fun (link, supply) =>
  let (fresh, supply) := supply.next
  (fresh, link, supply)

def ofLink (hasher : Password.Hasher) : Backend (StateM (Link σ × Supply)) where
  hasher
  fresh := takeBeside
  perform := fun operation => onLink (Link.perform operation)
  transact := fun work => onLink (Link.transact work)

end Backend

end Accounts.Service
