/-! Programs that ask for what they need one request at a time. -/

namespace Accounts

/-- A finite program: it has ended with a value, or it asks for something and goes on with the
reply. -/
inductive Program (Ask : Type) (Reply : Ask → Type) (α : Type) : Type
  | done (value : α)
  | ask (request : Ask) (next : Reply request → Program Ask Reply α)

namespace Program

variable {Ask : Type} {Reply : Ask → Type} {α β : Type}

def andThen : Program Ask Reply α → (α → Program Ask Reply β) → Program Ask Reply β
  | .done value, next => next value
  | .ask request more, next => .ask request fun reply => (more reply).andThen next

instance : Monad (Program Ask Reply) where
  pure := .done
  bind := andThen

def request (request : Ask) : Program Ask Reply (Reply request) := .ask request .done

def run {m : Type → Type} [Monad m] (answer : (request : Ask) → m (Reply request)) :
    Program Ask Reply α → m α
  | .done value => pure value
  | .ask request next => do
    let reply ← answer request
    (next reply).run answer

end Program

end Accounts
