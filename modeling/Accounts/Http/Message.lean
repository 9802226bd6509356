import Accounts.Json.Value
import Accounts.Text.Utf8

/-! HTTP requests and responses. -/

namespace Accounts.Http

def lowerLetter (c : Char) : Char :=
  if 'A' ≤ c ∧ c ≤ 'Z' then Char.ofNat (c.toNat + 32) else c

def lowerName (name : String) : String := String.ofList (name.toList.map lowerLetter)

def isSchemeLetter (c : Char) : Bool := c.isAlphanum || c = '+' || c = '-' || c = '.'

def behindScheme? (target : List Char) : Option (List Char) :=
  match target.span isSchemeLetter with
  | (_ :: _, ':' :: '/' :: '/' :: rest) => some rest
  | _ => none

structure Request where
  method : String
  target : String
  headers : List (String × List UInt8)
  body : List UInt8

namespace Request

/-- The path of a request, without query and fragment. A target that begins with a scheme has the
path behind its authority, at least a slash. -/
def path (request : Request) : String :=
  let target := request.target.toList.takeWhile fun c => c ≠ '?' && c ≠ '#'
  match behindScheme? target with
  | none => String.ofList target
  | some rest =>
    let path := rest.dropWhile (· ≠ '/')
    String.ofList (if path = [] then ['/'] else path)

def header? (request : Request) (name : String) : Option (List UInt8) :=
  (request.headers.find? fun header => lowerName header.1 = name).map Prod.snd

end Request

def isTextByte (byte : UInt8) : Bool := (0x20 ≤ byte && byte ≤ 0x7E) || byte == 0x09

def headerText? (value : List UInt8) : Option String :=
  if value.all isTextByte then some (String.ofList (value.map fun byte => Char.ofNat byte.toNat))
  else none

structure Response where
  status : Nat
  headers : List (String × String)
  body : String
  deriving DecidableEq, Repr

namespace Response

def header? (response : Response) (name : String) : Option String :=
  (response.headers.find? fun header => header.1 = name).map Prod.snd

def bare (status : Nat) : Response := ⟨status, [], ""⟩

def ofDocument (status : Nat) (document : Json.Value) : Response :=
  ⟨status, [("content-type", "application/json")], document.render⟩

def ofText (status : Nat) (text : String) : Response :=
  ⟨status, [("content-type", "text/plain; charset=utf-8")], text⟩

def withHeaders (response : Response) (headers : List (String × String)) : Response :=
  { response with headers := response.headers ++ headers }

def withoutBody (response : Response) : Response := { response with body := "" }

end Response

end Accounts.Http
