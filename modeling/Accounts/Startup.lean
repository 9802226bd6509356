import Accounts.Http.Server
import Accounts.Service.UseCases
import Accounts.Service.Backend
import Accounts.Settings.Config
import Accounts.Store.Target

/-! Starting the server. -/

namespace Accounts

inductive StartError
  | configuration (error : Settings.ConfigError)
  | database (error : Store.ConnectError)
  | service (failure : Failure)
  | listening (reason : String)
  deriving DecidableEq

namespace StartError

def message : StartError → String
  | .configuration error => error.message
  | .database error => error.message
  | .service failure => failure.message
  | .listening reason => reason

def causes : StartError → List String
  | .configuration error => error.causes
  | .database error => error.causes
  | .service _ | .listening _ => []

def causeLines : List String → List String
  | [] => []
  | [cause] => ["", "Caused by:", "    " ++ cause]
  | causes =>
    ["", "Caused by:"] ++ causes.mapIdx fun i cause =>
      "    " ++ String.ofList (Text.decimal i) ++ ": " ++ cause

def report (error : StartError) : String :=
  "".intercalate ((("Error: " ++ error.message) :: causeLines error.causes).map (· ++ "\n"))

end StartError

inductive Startup
  /-- It serves users that are kept in memory. -/
  | serving (server : Http.Server) (memory : Store.Memory)
  /-- It connects to a database server. -/
  | connecting (target : Store.Target)
  /-- It ends with a reason. -/
  | refused (error : StartError)
  /-- It breaks off, since an origin among the allowed ones stands for every origin or since no
  connection to a server may be made. -/
  | brokenOff

namespace Startup

def seedAdmin (hasher : Password.Hasher) (admin : Option Service.DefaultAdmin) :
    StateM Store.Memory (Except Failure Unit) :=
  match admin with
  | none => pure (.ok ())
  | some admin => do
    let outcome ← (Service.Backend.ofMemory hasher).run (Service.seed admin)
    pure (outcome.map fun _ => ())

/-- Starts to serve users that are kept in memory with given instruments, once the server listens on
its address. What comes of listening is up to the machine. -/
def serveAt (listen : Net.SocketAddress → Except String Unit) (config : Settings.Config)
    (instruments : Service.Instruments) (memory : Store.Memory) : Startup :=
  match Http.Cors.of? config.origins with
  | none => .brokenOff
  | some cors =>
    match listen config.address with
    | .error reason => .refused (.listening reason)
    | .ok () => .serving { instruments, cors, patience := config.timeoutSeconds } memory

def inMemory (listen : Net.SocketAddress → Except String Unit) (config : Settings.Config)
    (memory : Store.Memory) : Startup :=
  match Service.Instruments.of config.token config.cost with
  | .error failure => .refused (.service failure)
  | .ok instruments =>
    match seedAdmin instruments.hasher config.admin memory with
    | (.error failure, _) => .refused (.service failure)
    | (.ok (), memory) => serveAt listen config instruments memory

def onServer (standard : Store.Target) (url : String) (maxConnections : Nat) : Startup :=
  match Store.Target.ofUrl standard url with
  | .error error => .refused (.database error)
  | .ok target => if maxConnections = 0 then .brokenOff else .connecting target

def start (listen : Net.SocketAddress → Except String Unit) (environment : Settings.Environment)
    (supply : Supply) : Startup :=
  match Settings.Config.read environment with
  | .error error => .refused (.configuration error)
  | .ok config =>
    match config.database with
    | .memory => inMemory listen config { table := .empty, supply }
    | .postgres url maxConnections =>
      onServer (Settings.standardTarget environment) url maxConnections

end Startup

end Accounts
