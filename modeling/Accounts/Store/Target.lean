import Accounts.Net.Url
import Accounts.Store.StorageError

/-! Where a database server is looked for, and how looking for it ends where there is none. -/

namespace Accounts.Store

structure Target where
  directory : Option String
  host : String
  port : Nat
  deriving DecidableEq, Repr

inductive ConnectError
  | url (fault : Net.UrlFault)
  | encoding (fault : Text.Utf8Fault)
  | number (fault : Text.IntegerFault)
  | address
  | securityMode (name : String)
  | io (reason : String)
  | timedOut
  deriving DecidableEq, Repr

namespace ConnectError

def unknownMode (name : String) : String :=
  "unknown value " ++ Text.quoted name ++ " for `ssl_mode`"

def storage : ConnectError → StorageError
  | .url fault => .configuration fault.message
  | .encoding fault => .configuration fault.message
  | .number fault => .configuration fault.message
  | .address => .configuration "invalid IP address syntax"
  | .securityMode name =>
    .configuration (StorageError.configuration (unknownMode name)).message
  | .io reason => .io reason
  | .timedOut => .poolTimedOut

def message (error : ConnectError) : String := error.storage.message

def causes (error : ConnectError) : List String :=
  match error.storage with
  | .configuration reason =>
    match error with
    | .securityMode name => [reason, unknownMode name]
    | _ => [reason]
  | .io reason => [reason]
  | _ => []

end ConnectError

namespace Target

def greatestPort : Nat := 0xFFFF

def securityModes : List String :=
  ["disable", "allow", "prefer", "require", "verify-ca", "verify-full"]

def readNumber (greatest : Nat) (value : String) : Except ConnectError Nat :=
  (Text.readUnsigned greatest value).mapError .number

def applyField (target : Target) (field : String × String) : Except ConnectError Target :=
  let (name, value) := field
  match name with
  | "host" =>
    if value.toList.head? = some '/' then .ok { target with directory := some value }
    else .ok { target with host := value }
  | "hostaddr" =>
    let groups := Text.scanAll? Net.scanAllGroups value.toList
    if (Text.scanAll? Net.scanBytes value.toList).isSome ∨ groups.isSome then
      .ok { target with host := value }
    else .error .address
  | "port" => (readNumber greatestPort value).map fun port => { target with port }
  | "statement-cache-capacity" => (readNumber 0xFFFFFFFFFFFFFFFF value).map fun _ => target
  | "sslmode" | "ssl-mode" =>
    if securityModes.contains (value.map Char.toLower) then .ok target
    else .error (.securityMode value)
  | _ => .ok target

def readPart (part : List Char) : Except ConnectError String :=
  (Text.ofUtf8 (Text.percentBytes part)).mapError .encoding

/-- Takes over the host of a URL. One that spells a path is the directory of a socket. -/
def applyHost (target : Target) (host : Net.Host) : Except ConnectError Target :=
  let text := host.print
  if (Text.percentBytes text).head? = some 0x2F then
    (readPart text).map fun directory => { target with directory := some directory }
  else .ok { target with host := String.ofList text }

/-- The target that a URL names; what it leaves out is as in another target. The name and the
password of a user and the name of the database have to be texts. -/
def ofUrl (standard : Target) (url : String) : Except ConnectError Target := do
  let url ← (Net.Url.read url).mapError .url
  let target ←
    match url.host with
    | none => .ok standard
    | some host => applyHost standard host
  let target := { target with port := url.port.getD target.port }
  let _ ← readPart url.username
  let _ ← readPart url.password
  let _ ← readPart url.path
  (Text.formFields url.query).foldlM applyField target

def socketDirectory? (target : Target) : Option String :=
  match target.directory with
  | some directory => some directory
  | none => if target.host.toList.head? = some '/' then some target.host else none

def socketName (port : Nat) : String := ".s.PGSQL." ++ String.ofList (Text.decimal port)

def pathLimit : Nat := 108

inductive Place
  | directory
  | file
  deriving DecidableEq, Repr

variable {m : Type → Type} [Monad m] (look : List String → m (Option Place))

/-- Walks from a directory, whose path is kept in reverse, through the names of a path to a socket
that does not exist; `look` tells what the names from the root on lead to. -/
def walk (path : List String) : List String → m ConnectError
  | [] => return .io "No such file or directory (os error 2)"
  | name :: rest => do
    if name = "" ∨ name = "." then walk path rest
    else if name = ".." then walk path.tail rest
    else
      match ← look (name :: path).reverse with
      | some .directory => walk (name :: path) rest
      | some .file => return .io "Not a directory (os error 20)"
      | none => return .io "No such file or directory (os error 2)"

def missingSocket (directory : String) (port : Nat) : m ConnectError := do
  let path := directory ++ "/" ++ socketName port
  if path.toList.contains '\x00' then
    return .io "paths must not contain interior null bytes"
  else if pathLimit ≤ path.utf8ByteSize then return .io "path must be shorter than SUN_LEN"
  else walk look [] ((directory.toList.splitOn '/').map String.ofList)

def isLocal (host : String) : Bool :=
  let text := host.toList.filter fun c => c ≠ '[' && c ≠ ']'
  host.map Char.toLower = "localhost" ||
    (Text.scanAll? Net.scanBytes text).any (fun bytes => bytes.head? = some 127) ||
    (Text.scanAll? Net.scanAllGroups text) == some [0, 0, 0, 0, 0, 0, 0, 1]

def isAddress (host : String) : Bool :=
  let text := host.toList.filter fun c => c ≠ '[' && c ≠ ']'
  (Text.scanAll? Net.scanBytes text).isSome || (Text.scanAll? Net.scanAllGroups text).isSome

/-- How connecting to a host ends that has no server. This machine refuses at once and is asked
again until it is too late; no other machine is within reach, nor is there anyone to ask for its
address. -/
def missingHost (host : String) : ConnectError :=
  if isLocal host then .timedOut
  else if isAddress host then .io "Network is unreachable (os error 101)"
  else .io "failed to lookup address information: Temporary failure in name resolution"

def attempt (target : Target) : m ConnectError :=
  match target.socketDirectory? with
  | some directory => missingSocket look directory target.port
  | none => return missingHost target.host

end Target

end Accounts.Store
