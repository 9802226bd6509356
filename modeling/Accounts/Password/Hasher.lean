import Accounts.Hash.Argon2
import Accounts.Password
import Accounts.Text.Utf8

/-! Hashing passwords, and verifying them by what a hash says of itself. -/

namespace Accounts.Password

open Hash

structure Cost where
  memory : Nat
  iterations : Nat
  parallelism : Nat
  deriving DecidableEq, Repr

def Cost.standard : Cost := ⟨19456, 2, 1⟩

inductive CostError
  | memoryTooSmall
  | timeTooSmall
  | noThreads
  | tooManyThreads
  deriving DecidableEq, Repr

def CostError.reason : CostError → String
  | .memoryTooSmall => "memory cost is too small"
  | .timeTooSmall => "time cost is too small"
  | .noThreads => "not enough threads"
  | .tooManyThreads => "too many threads"

/-- The least memory for a number of lanes: eight blocks of 1 KiB for each, as a number of 32 bits.
A number of lanes so large that this wraps around is refused later. -/
def leastMemory (lanes : Nat) : Nat := 8 * lanes % 0x100000000

def Cost.fault? (cost : Cost) : Option CostError :=
  if cost.memory < 8 ∨ cost.memory < leastMemory cost.parallelism then some .memoryTooSmall
  else if cost.iterations < 1 then some .timeTooSmall
  else if cost.parallelism < 1 then some .noThreads
  else if cost.parallelism > 0xFFFFFF then some .tooManyThreads
  else none

structure Hasher where
  cost : Cost
  valid : cost.fault? = none

def Hasher.of (cost : Cost) : Except HashError Hasher :=
  match fault : cost.fault? with
  | none => .ok ⟨cost, fault⟩
  | some error => .error (.invalidCost error.reason)

abbrev Salt := Vector UInt8 16

def hashLength : Nat := 32

def Cost.parameters (cost : Cost) : List (String × String) :=
  [("m", String.ofList (Text.decimal cost.memory)),
   ("t", String.ofList (Text.decimal cost.iterations)),
   ("p", String.ofList (Text.decimal cost.parallelism))]

def Hasher.phc (hasher : Hasher) (salt : Salt) (password : ClearText) : Phc where
  algorithm := "argon2id"
  version := some 19
  parameters := hasher.cost.parameters
  salt := some (Text.base64 .standard salt.toList)
  hash := some <| Argon2.hash
    { variant := .id, version := .v19, memory := hasher.cost.memory,
      passes := hasher.cost.iterations, lanes := hasher.cost.parallelism, data := [] }
    (Text.utf8 password.text) salt.toList hashLength

def Hasher.hash (hasher : Hasher) (salt : Salt) (password : ClearText) : Hashed :=
  ⟨(hasher.phc salt password).render⟩

def variant? (name : String) : Option Argon2.Variant :=
  if name = "argon2d" then some .d
  else if name = "argon2i" then some .i
  else if name = "argon2id" then some .id
  else none

def version? (number : Option Nat) : Option Argon2.Version :=
  match number with
  | none => some .v19
  | some 19 => some .v19
  | some 16 => some .v16
  | some _ => none

structure Request where
  cost : Cost
  data : List UInt8
  deriving DecidableEq, Repr

def shortBytes? (most : Nat) (text : String) : Option (List UInt8) :=
  (Text.ofBase64? .standard text).bind fun bytes =>
    if bytes.length ≤ most then some bytes else none

/-- Adds a parameter to a request; a later one of a name replaces an earlier one. A key identifier
has to be readable and has no effect. -/
def Request.add (request : Request) (parameter : String × String) : Option Request :=
  let (name, value) := parameter
  if name = "m" then
    (Phc.number? value.toList).map fun n =>
      { request with cost := { request.cost with memory := n } }
  else if name = "t" then
    (Phc.number? value.toList).map fun n =>
      { request with cost := { request.cost with iterations := n } }
  else if name = "p" then
    (Phc.number? value.toList).map fun n =>
      { request with cost := { request.cost with parallelism := n } }
  else if name = "keyid" then (shortBytes? 8 value).map fun _ => request
  else if name = "data" then (shortBytes? 32 value).map fun data => { request with data }
  else none

def request? (parameters : List (String × String)) : Option Request := do
  let request ← parameters.foldlM Request.add { cost := .standard, data := [] }
  if request.cost.fault? = none then some request else none

/-- What a password hash says of the computation of its hash: the settings, the salt, and the hash
itself. A salt has at least eight bytes. -/
def Phc.recipe? (phc : Phc) : Option (Argon2.Settings × List UInt8 × List UInt8) := do
  let variant ← variant? phc.algorithm
  let version ← version? phc.version
  let request ← request? phc.parameters
  let salt ← phc.salt
  let salt ← Text.ofBase64? .standard salt
  let hash ← phc.hash
  if salt.length < 8 then failure
  let settings : Argon2.Settings :=
    { variant, version, memory := request.cost.memory, passes := request.cost.iterations,
      lanes := request.cost.parallelism, data := request.data }
  return (settings, salt, hash)

/-- Whether a password is the one that was hashed. A hash that cannot be computed again belongs to
no password. -/
def Hashed.verifies (hashed : Hashed) (password : ClearText) : Bool :=
  match (Phc.parse? hashed.phc).bind Phc.recipe? with
  | none => false
  | some (settings, salt, hash) =>
    Argon2.hash settings (Text.utf8 password.text) salt hash.length == hash

/-- Verifies a password against a hash if there is one; without a hash no password is right. -/
def verifiesAny (hashed : Option Hashed) (password : ClearText) : Bool :=
  match hashed with
  | none => false
  | some hashed => hashed.verifies password

end Accounts.Password
