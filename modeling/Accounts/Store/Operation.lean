import Accounts.Failure
import Accounts.Program
import Accounts.User

/-! What can be asked of a store of users. -/

namespace Accounts.Store

inductive Operation
  | create (user : NewUser)
  | findByUsername (username : String)
  | findByEmail (email : String)
  | findById (id : Uuid)
  | update (user : User)
  | delete (id : Uuid)

abbrev Operation.Value : Operation → Type
  | .delete _ => Unit
  | _ => User

abbrev Operation.Result (operation : Operation) : Type := Except Failure operation.Value

inductive Ending (α : Type)
  /-- It ends of its own accord, well or not. -/
  | returned (result : Except Failure α)
  /-- It breaks off with a message. -/
  | panicked (message : String)

abbrev Work (α : Type) : Type := Program Operation Operation.Result (Ending α)

def Work.create (user : NewUser) : Work User :=
  .ask (.create user) fun result => .done (.returned result)

structure Scope (m : Type → Type) where
  commit : m (Except Failure Unit)
  rollback : m (Except Failure Unit)

/-- Finishes a transaction once the work within it has ended: it is committed if the work went well
and undone otherwise. A failure to undo it is told together with the failure of the work. -/
def Scope.finish {m : Type → Type} [Monad m] {α : Type} (scope : Scope m) :
    Ending α → m (Ending α)
  | .returned (.ok value) => do
    match ← scope.commit with
    | .ok () => pure (.returned (.ok value))
    | .error failure => pure (.returned (.error failure))
  | .returned (.error failure) => do
    match ← scope.rollback with
    | .ok () => pure (.returned (.error failure))
    | .error rollback => pure (.returned (.error (.rollbackFailed failure rollback.message)))
  | .panicked message => do
    let _ ← scope.rollback
    pure (.panicked message)

def Scope.run {m : Type → Type} [Monad m] {α : Type} (scope : Scope m) (work : m (Ending α)) :
    m (Ending α) := do
  let ending ← work
  scope.finish ending

/-- The result of a transaction whose work breaks off without anyone to tell it to. -/
def Ending.result {α : Type} : Ending α → Except Failure α
  | .returned result => result
  | .panicked message => .error (.internal message)

end Accounts.Store
