import Std.Time.DateTime
import Turnstile.Command.Arguments
import Turnstile.Command.Check
import Turnstile.Command.Replay
import Turnstile.Text.Basic
/-!
# The program

The outer layer: it reads files and the standard input, asks for the time and for random ids, and prints
what the library answers. It has no access to the network, so every request of the poller is lost and
no snapshot comes into force during a replay.
-/

open Turnstile Turnstile.Policy Turnstile.Command

namespace Turnstile.Main

/-- The content of a file, or nothing if it cannot be read. -/
def contentOf (path : String) : IO (Option Bytes) := do
  try return some (← IO.FS.readBinFile path).toList
  catch _ => return none

/-- The configuration file under a path. -/
def configFile (path : String) : IO Config.File := do
  try return .content (← IO.FS.readBinFile path).toList
  catch
    | .noFileOrDirectory .. => return .missing
    | _ => return .unreadable

/-- The time. -/
def now : IO Log.Instant := do
  let t ← Std.Time.Timestamp.now
  let date := Std.Time.PlainDate.ofEpochDay t.toDaysSinceUnixEpoch
  let nanosecond := t.toNanosecondsSinceUnixEpoch.toInt.toNat
  let second := nanosecond / Nat.pow 10 9
  return {
    date := ⟨date.year, date.month.val.toNat, date.day.val.toNat⟩
    minute := second / 60 % 1440
    second := second % 60
    nanosecond := nanosecond % Nat.pow 10 9 }

/-- The time in milliseconds. -/
def milliseconds : IO Int := do
  return (← Std.Time.Timestamp.now).toMillisecondsSinceUnixEpoch.toInt

/-- A random id. -/
def randomId : IO Log.Identifier := do
  let bytes ← IO.getRandomBytes 16
  let n := bytes.toList.foldl (fun n b => n * 256 + b.toNat) 0
  let place := Nat.pow 16
  let version := 4 * place 19
  let variant := 8 * place 15
  let free := n % place 15 + n / place 15 % 4 * place 15 + n / place 16 % place 3 * place 16 +
    n / place 20 * place 20
  return .ofNat (free + version + variant)

/-- The stamp of a span that begins and ends now. -/
def stamp : IO Log.Stamp := do
  let t ← now
  return ⟨← randomId, t, t⟩

/-- Reports an error with the exit code it has. -/
def fail (message : String) (code : Nat) : IO UInt32 := do
  IO.eprintln ("Error: " ++ message)
  return UInt32.ofNat code

/-- Judges one request. -/
def runCheck (config : Config) (a : CheckArguments) : IO UInt32 := do
  let inquiry : Inquiry := {
    headers := a.headers
    contentType := a.contentType
    body := ← a.body.mapM fun path => do return (path, ← contentOf path)
    snapshot := ← a.snapshot.mapM contentOf }
  match inquiry.run config (← milliseconds) (← stamp) with
  | .error e => fail e.message e.exitCode
  | .ok outcome =>
    IO.println outcome.toJson.renderLines
    return UInt32.ofNat (exitCode outcome)

/-- Opens a span log, and makes the directories above it. -/
def openLog (path : String) : IO (Option IO.FS.Handle) := do
  let parts := path.splitOn "/"
  try
    if 1 < parts.length then
      IO.FS.createDirAll ("/".intercalate parts.dropLast)
    return some (← IO.FS.Handle.mk path .append)
  catch _ => return none

/-- Writes what the span log gained. -/
def writeLog (h : IO.FS.Handle) (written : Nat) (file : Log.LogFile) : IO Nat := do
  let gained := file.content.drop written
  if !gained.isEmpty then
    h.write ⟨gained.toArray⟩
    h.flush
  return written + gained.length

/-- Takes the lines of the input as they come. -/
partial def takeLines (input : IO.FS.Stream) (h : IO.FS.Handle) (written : Nat) (held : ByteArray)
    (r : Replay) : IO (Option ReplayError × Nat × Replay) := do
  let chunk ← input.read 65536
  let bytes := (held ++ chunk).toList
  let ends := chunk.isEmpty
  let lines := Text.linesOf bytes
  let whole := if ends || bytes.getLast? = some 10 then lines else lines.dropLast
  let rest := if whole.length = lines.length then [] else lines.getLastD []
  let mut r := r
  let mut written := written
  for line in whole do
    let before := r.processed
    let s ← stamp
    let (error, r') := Replay.run (fun _ => s) r [line]
    r := r'
    if before < r.processed then
      for outcome in r.outcomes.take 1 do
        IO.println outcome.toJson.render
    written ← writeLog h written r.log.exporter.file
    if error.isSome then return (error, written, r)
  if ends then return (none, written, r)
  takeLines input h written ⟨rest.toArray⟩ r

/-- Judges the requests of the standard input. -/
def runReplay (config : Config) : IO UInt32 := do
  let log ← openLog config.logging.spanLogPath
  match log, Replay.ofLog config ⟨none, ← milliseconds⟩ (log.map fun _ => .ofContent []) with
  | _, .error e => fail e.message e.exitCode
  | none, _ => fail ReplayError.spanLog.message ReplayError.spanLog.exitCode
  | some h, .ok start =>
    let (error, written, r) ← takeLines (← IO.getStdin) h 0 .empty start
    match error with
    | some e => fail e.message e.exitCode
    | none =>
      let _ ← writeLog h written r.finish.2
      return 0

/-- What the program can be asked to do. -/
def usage : String := "\n".intercalate [
  "Captures the bodies of requests and blocks requests by policy",
  "",
  "Usage: [OPTIONS] <COMMAND>",
  "",
  "Commands:",
  "  check   Judge one request and print its outcome",
  "  replay  Judge the requests on the standard input, one to a line",
  "  help    Print this message",
  "",
  "Options:",
  "  -c, --config <CONFIG>                    Path to the configuration file",
  "      --policy-endpoint <POLICY_ENDPOINT>  Policy service base URL",
  "      --policy-token <POLICY_TOKEN>        Bearer token for the policy service",
  "      --span-log <SPAN_LOG>                Span log path",
  "  -h, --help                               Print help",
  "  -V, --version                            Print version"]

/-- What is said about arguments that are no task, and the exit code. -/
def complaint : ArgumentError → String × UInt32
  | .help => (usage, 0)
  | .version => ("0.1.0", 0)
  | .helpForNothing => (usage, 2)
  | .unknownArgument => ("error: unexpected argument", 2)
  | .invalidValue => ("error: a value is missing or invalid", 2)
  | .tooManyValues => ("error: unexpected value", 2)
  | .unknownCommand => ("error: unrecognized subcommand", 2)
  | .conflict => ("error: an argument cannot be used multiple times", 2)
  | .missingArgument => ("error: a required argument was not provided", 2)
  | .missingCommand => ("error: a subcommand is required", 2)

end Turnstile.Main

open Turnstile.Main in
/-- Runs the program. -/
def main (args : List String) : IO UInt32 := do
  match Arguments.parse args with
  | .error e =>
    let (message, code) := complaint e
    if code = 0 then IO.println message else IO.eprintln message
    return code
  | .ok a =>
    let token := a.policyToken.or (← IO.getEnv "CAPTURE_GUARD_POLICY_TOKEN")
    match Config.load (← configFile a.config) with
    | .error e => fail (e.message ++ " " ++ a.config) 1
    | .ok (config, _) =>
      let config := config.override a.policyEndpoint token a.spanLog
      match a.task with
      | .check arguments => runCheck config arguments
      | .replay => runReplay config
