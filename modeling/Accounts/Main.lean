import Accounts.Http.Framing
import Accounts.Settings.EnvFile
import Accounts.Startup
import Std.Time.DateTime.Timestamp

/-! The command: serves the requests on standard input and answers on standard output. -/

namespace Accounts

def readEnvironment : IO Settings.Environment := do
  let block ← IO.FS.readBinFile "/proc/self/environ"
  let entries := block.data.toList.splitOnP (· == 0)
  return ⟨entries.filterMap fun entry =>
    match entry.span (· != 0x3D) with
    | (name, _ :: value) => (Text.ofUtf8? name).map fun name => (name, value)
    | _ => none⟩

def readEnvFile : IO (List UInt8) := do
  try
    let file ← IO.FS.readBinFile ".env"
    return file.data.toList
  catch _ => return []

def drawSupply : IO Supply := do
  let seed ← IO.getRandomBytes 32
  let now ← Std.Time.Timestamp.now
  return Supply.ofSeed seed.data.toList
    ((Time.Instant.of? now.toSecondsSinceUnixEpoch.val 0).getD Time.Instant.epoch)

partial def readLines (input : IO.FS.Stream) (lines : List String) : IO (List String) := do
  let line ← input.getLine
  let text := line.trimAsciiEnd.toString
  if text = "" then return lines.reverse else readLines input (text :: lines)

partial def readBytes (input : IO.FS.Stream) (count : Nat) (taken : ByteArray) :
    IO (List UInt8) := do
  if count = 0 then return taken.data.toList
  let more ← input.read count.toUSize
  if more.size = 0 then return taken.data.toList
  else readBytes input (count - more.size) (taken ++ more)

def lookAt (path : List String) : IO (Option Store.Target.Place) := do
  try
    let found ← (System.mkFilePath ("" :: path)).metadata
    return some (match found.type with | .dir => .directory | _ => .file)
  catch _ => return none

partial def serve (server : Http.Server) (memory : Store.Memory) : IO Unit := do
  let input ← IO.getStdin
  let output ← IO.getStdout
  let lines ← readLines input []
  let some head := Http.Head.ofLines? lines | return
  let body ← readBytes input head.bodyLength .empty
  let supply ← drawSupply
  let backend := Service.Backend.ofMemory server.instruments.hasher
  let (response, memory) := (server.answer backend (head.withBody body)) { memory with supply }
  output.putStr response.send
  output.flush
  serve server memory

end Accounts

open Accounts in
def main : IO UInt32 := do
  let environment := Settings.EnvFile.load (← readEnvironment) (← readEnvFile)
  -- Requests come on standard input, whatever the address.
  match Startup.start (fun _ => .ok ()) environment (← drawSupply) with
  | .serving server memory =>
    serve server memory
    return 0
  | .connecting target =>
    (← IO.getStderr).putStr (StartError.database (← target.attempt lookAt)).report
    return 1
  | .refused error =>
    (← IO.getStderr).putStr error.report
    return 1
  | .brokenOff => return 101
