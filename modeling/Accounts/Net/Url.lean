import Accounts.Net.Host
import Accounts.Text.Numerals

/-! URLs: reading their parts. -/

namespace Accounts.Net

inductive SchemeKind
  | web (port : Nat)
  | file
  | other
  deriving DecidableEq, Repr

def SchemeKind.of (scheme : String) : SchemeKind :=
  match scheme with
  | "http" | "ws" => .web 80
  | "https" | "wss" => .web 443
  | "ftp" => .web 21
  | "file" => .file
  | _ => .other

def SchemeKind.isSlash (kind : SchemeKind) (c : Char) : Bool :=
  c = '/' || (c = '\\' && kind ≠ .other)

def SchemeKind.endsAuthority (kind : SchemeKind) (c : Char) : Bool :=
  kind.isSlash c || c = '?' || c = '#'

/-- A URL by its parts. They are as they are written, percent signs and all. -/
structure Url where
  username : List Char := []
  password : List Char := []
  host : Option Host := none
  port : Option Nat := none
  path : List Char := []
  query : List Char := []
  deriving DecidableEq, Repr

namespace Url

/-- The characters of a URL that count: those of its ends up to the space do not, nor do tabs and
line breaks. -/
def counted (text : List Char) : List Char :=
  let atEnd (c : Char) : Bool := c.toNat ≤ 0x20
  let inner := ((text.dropWhile atEnd).reverse.dropWhile atEnd).reverse
  inner.filter fun c => c ≠ '\t' && c ≠ '\n' && c ≠ '\r'

def isSchemeChar (c : Char) : Bool := c.isAlphanum || c = '+' || c = '-' || c = '.'

def cutScheme? (url : List Char) : Option (String × List Char) :=
  match url.span isSchemeChar with
  | (first :: scheme, ':' :: rest) =>
    if first.isAlpha then some (String.ofList ((first :: scheme).map Char.toLower), rest) else none
  | _ => none

def plainDots : List Char → List Char
  | '%' :: '2' :: 'e' :: rest => '.' :: plainDots rest
  | '%' :: '2' :: 'E' :: rest => '.' :: plainDots rest
  | c :: rest => c :: plainDots rest
  | [] => []

/-- Walks the rest of a path from the parts that lead to it, which are kept in reverse: one dot
stays, and two dots go back. -/
def walked (done : List (List Char)) : List (List Char) → List (List Char)
  | [] => done.reverse
  | part :: rest =>
    let stays := plainDots part = ['.']
    let back := plainDots part = ['.', '.']
    let done := if back then done.tail else done
    let done :=
      if !stays && !back then part :: done
      else if rest = [] then [] :: done
      else done
    walked done rest

def walkedPath (kind : SchemeKind) (path : List Char) : List Char :=
  let parts := (path.dropWhile kind.isSlash).splitOnP kind.isSlash
  (['/'].intercalate (walked [] parts)).dropWhile (· = '/')

/-- Reads a port and what follows it. A port that goes with the scheme counts as none. -/
def takePort (kind : SchemeKind) (text : List Char) :
    Except UrlFault (Option Nat × List Char) :=
  let (digits, rest) := text.span Char.isDigit
  if 0xFFFF < Nat.ofDigitChars 10 digits 0 then .error .port
  else if rest.head?.any fun c => c ≠ '/' && c ≠ '\\' && c ≠ '?' && c ≠ '#' then .error .port
  else
    let port := Nat.ofDigitChars 10 digits 0
    .ok (if digits = [] ∨ kind = .web port then none else some port, rest)

def takeHost (kind : SchemeKind) (bracket : Bool) : List Char → List Char
  | [] => []
  | c :: rest =>
    if (c = ':' && !bracket) || kind.endsAuthority c then []
    else c :: takeHost kind (if c = '[' then true else if c = ']' then false else bracket) rest

/-- Reads a host. An empty one is fine for schemes that have hosts of their own, as long as no port
follows it. -/
def readHost (kind : SchemeKind) (text : List Char) (port : Bool) :
    Except UrlFault (Option Host) :=
  if text = [] then
    if kind ≠ .other ∨ port then .error .emptyHost else .ok none
  else (if kind = .other then Host.ofOpaque text else Host.ofDomain text).map some

def withRest (url : Url) (kind : SchemeKind) (rest : List Char) : Url :=
  let rest := rest.takeWhile (· ≠ '#')
  let (path, query) := rest.span (· ≠ '?')
  { url with path := walkedPath kind path, query := query.drop 1 }

def ofAuthority (kind : SchemeKind) (text : List Char) : Except UrlFault Url := do
  let authority := text.takeWhile fun c => !kind.endsAuthority c
  let behind := (authority.reverse.takeWhile (· ≠ '@')).reverse
  let user := authority.take (authority.length - behind.length - 1)
  let rest := text.drop (authority.length - behind.length)
  let (username, password) := user.span (· ≠ ':')
  let password := password.drop 1
  if user = [] ∧ behind ≠ authority ∧ rest.head?.any kind.endsAuthority then .error .emptyHost
  let name := takeHost kind false rest
  let rest := rest.drop name.length
  let host ← readHost kind name (rest.head? = some ':')
  let (port, rest) ←
    match rest with
    | ':' :: rest => takePort kind rest
    | _ => .ok (none, rest)
  if host = none ∧ (username ≠ [] ∨ password ≠ []) then .error .emptyHost
  return withRest { username, password, host, port } kind rest

def isDrive : List Char → Bool
  | [letter, mark] => letter.isAlpha && (mark = ':' || mark = '|')
  | _ => false

/-- Reads what follows the scheme of a file. Its host may be left out; `localhost` and the letter of
a drive are no hosts. -/
def ofFile (text : List Char) : Except UrlFault Url :=
  match text with
  | a :: b :: rest =>
    if SchemeKind.file.isSlash a ∧ SchemeKind.file.isSlash b then
      let name := rest.takeWhile fun c => !SchemeKind.file.endsAuthority c
      if name = [] ∨ isDrive name then .ok (withRest {} .file rest)
      else do
        let host ← Host.ofDomain name
        let host := if host = .name "localhost".toList then none else some host
        return withRest { host } .file (rest.drop name.length)
    else .ok (withRest {} .file text)
  | _ => .ok (withRest {} .file text)

def ofOther (text : List Char) : Except UrlFault Url :=
  match text with
  | '/' :: '/' :: rest => ofAuthority .other rest
  | '/' :: _ => .ok (withRest {} .other text)
  | _ =>
    let (path, query) := (text.takeWhile (· ≠ '#')).span (· ≠ '?')
    .ok { path := path.dropWhile (· = '/'), query := query.drop 1 }

def read (text : String) : Except UrlFault Url :=
  match cutScheme? (counted text.toList) with
  | none => .error .noScheme
  | some (scheme, rest) =>
    match SchemeKind.of scheme with
    | .web port =>
      ofAuthority (.web port) (rest.dropWhile (SchemeKind.web port).isSlash)
    | .file => ofFile rest
    | .other => ofOther rest

end Url

end Accounts.Net
