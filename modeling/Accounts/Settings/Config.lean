import Accounts.Net.Address
import Accounts.Service.UseCases
import Accounts.Settings.Environment
import Accounts.Store.Target
import Accounts.Text.Numerals

/-! The configuration of the server, read from the environment. -/

namespace Accounts.Settings

inductive Database
  | memory
  | postgres (url : String) (maxConnections : Nat)
  deriving DecidableEq, Repr

structure Config where
  database : Database
  address : Net.SocketAddress
  timeoutSeconds : Nat
  origins : List String
  token : Token.Settings
  cost : Password.Cost
  admin : Option Service.DefaultAdmin

inductive ConfigError
  | missingUrl (fault : VariableFault)
  | unsupportedDriver (name : String)
  | invalidValue (name value reason : String)
  | missingSecret
  | nonPositiveExpiry (hours : Int)
  | partialAdmin
  deriving DecidableEq, Repr

namespace ConfigError

def message : ConfigError → String
  | .missingUrl _ => "DATABASE_URL must be set for the postgres driver"
  | .unsupportedDriver name =>
    "unsupported DATABASE_DRIVER `" ++ name ++ "` (expected postgres or memory)"
  | .invalidValue name value _ => name ++ " has an invalid value `" ++ value ++ "`"
  | .missingSecret => "JWT_SECRET must be set and non-empty"
  | .nonPositiveExpiry hours =>
    "JWT_EXPIRY_HOURS must be positive (got " ++ String.ofList (Text.signedDecimal hours) ++ ")"
  | .partialAdmin =>
    "DEFAULT_ADMIN_USERNAME, DEFAULT_ADMIN_EMAIL and DEFAULT_ADMIN_PASSWORD must be set together"

def causes : ConfigError → List String
  | .missingUrl fault => [fault.message]
  | .invalidValue _ _ reason => [reason]
  | _ => []

end ConfigError

def readUnsigned (greatest : Nat) (text : String) : Except String Nat :=
  (Text.readUnsigned greatest text).mapError Text.IntegerFault.message

def readSigned (text : String) : Except String Int :=
  (Text.readSigned text).mapError Text.IntegerFault.message

def readAddress (text : String) : Except String Net.SocketAddress :=
  match Net.SocketAddress.parse? text with
  | some address => .ok address
  | none => .error "invalid socket address syntax"

/-- Reads a variable as a value, or takes the value for an unset one. Blanks around a value do not
count. -/
def readOr {α : Type} (environment : Environment) (name : String)
    (read : String → Except String α) (unset : α) : Except ConfigError α :=
  match environment.optional name with
  | none => .ok unset
  | some raw => (read (Text.trim raw)).mapError fun reason => .invalidValue name raw reason

def standardAddress : Net.SocketAddress := .v4 [0, 0, 0, 0] 8080

def standardOrigins : String := "http://localhost:3000,http://127.0.0.1:3000"

def readOrigins (text : String) : List String :=
  ((text.toList.splitOn ',').map fun piece => Text.trim (String.ofList piece)).filter (· ≠ "")

def readDatabase (environment : Environment) : Except ConfigError Database :=
  let name := (environment.optional "DATABASE_DRIVER").getD "postgres"
  if name = "postgres" then do
    let url ← (environment.read "DATABASE_URL").mapError .missingUrl
    let maxConnections ← readOr environment "DATABASE_MAX_CONNECTIONS" (readUnsigned 0xFFFFFFFF) 5
    return .postgres url maxConnections
  else if name = "memory" then .ok .memory
  else .error (.unsupportedDriver name)

/-- Where a database server is looked for unless its URL tells. Variables that make no sense count
as unset. -/
def standardTarget (environment : Environment) : Store.Target :=
  let text? (name : String) : Option String := (environment.read name).toOption
  let port := (text? "PGPORT").bind fun port =>
    (Text.readUnsigned Store.Target.greatestPort port).toOption
  { directory := none, port := port.getD 5432,
    host := ((text? "PGHOSTADDR").or (text? "PGHOST")).getD "localhost" }

/-- Reads the first administrator: all of three variables or none. -/
def readAdmin (environment : Environment) : Except ConfigError (Option Service.DefaultAdmin) :=
  match environment.optional "DEFAULT_ADMIN_USERNAME", environment.optional "DEFAULT_ADMIN_EMAIL",
    environment.optional "DEFAULT_ADMIN_PASSWORD" with
  | some username, some email, some password => .ok (some { username, email, password })
  | none, none, none => .ok none
  | _, _, _ => .error .partialAdmin

def Config.read (environment : Environment) : Except ConfigError Config := do
  let database ← readDatabase environment
  let address ← readOr environment "HTTP_ADDR" readAddress standardAddress
  let timeoutSeconds ←
    readOr environment "REQUEST_TIMEOUT_SECS" (readUnsigned 0xFFFFFFFFFFFFFFFF) 30
  let origins := readOrigins ((environment.optional "FRONTEND_ORIGINS").getD standardOrigins)
  let some secret := environment.optional "JWT_SECRET" | .error .missingSecret
  let expiryHours ← readOr environment "JWT_EXPIRY_HOURS" readSigned 24
  if expiryHours ≤ 0 then .error (.nonPositiveExpiry expiryHours)
  let admin ← readAdmin environment
  pure
    { database, address, timeoutSeconds, origins, token := { secret, expiryHours },
      cost := .standard, admin }

def inspectRecord (name : String) (members : List (String × String)) : String :=
  let members := members.map fun member => member.1 ++ ": " ++ member.2
  name ++ " \x7b " ++ ", ".intercalate members ++ " \x7d"

def redacted : String := Text.quoted "[REDACTED]"

def inspectToken (settings : Token.Settings) : String :=
  inspectRecord "TokenConfig"
    [("secret", redacted),
     ("expiry_hours", String.ofList (Text.signedDecimal settings.expiryHours))]

def inspectCost (cost : Password.Cost) : String :=
  inspectRecord "HashCost"
    [("memory_kib", String.ofList (Text.decimal cost.memory)),
     ("iterations", String.ofList (Text.decimal cost.iterations)),
     ("parallelism", String.ofList (Text.decimal cost.parallelism))]

def inspectAdmin (admin : Service.DefaultAdmin) : String :=
  inspectRecord "DefaultAdmin"
    [("username", Text.quoted admin.username), ("email", Text.quoted admin.email),
     ("password", redacted)]

def Config.inspect (config : Config) : String :=
  inspectRecord "AuthConfig"
    [("token", inspectToken config.token), ("hash_cost", inspectCost config.cost),
     ("default_admin",
       match config.admin with
       | none => "None"
       | some admin => "Some(" ++ inspectAdmin admin ++ ")")]

end Accounts.Settings
