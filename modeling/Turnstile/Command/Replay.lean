import Turnstile.Config
import Turnstile.Exchange.Course
import Turnstile.Log.Batcher
import Turnstile.Text.Basic
/-!
# Replaying requests

Requests arrive as lines of JSON and are judged one after the other; each gets one outcome and one
record in the span log. A line that is blank or holds no request is skipped. Bytes that are no text end
the replay with an error, and so does a request for whose body no memory is granted; the records that wait
for an export then do not go out.
-/
namespace Turnstile.Command

open Policy Capture Turnstile.Stream

/-- Why a replay does not start, or ends early. -/
inductive ReplayError
  | spanLog
  | poller (cause : PollerError)
  /-- A line is no text. -/
  | input
  /-- The memory for the body of a request or a response is refused. -/
  | memory
deriving DecidableEq, Repr

def ReplayError.message : ReplayError → String
  | .spanLog => "failed to start span log"
  | .poller _ => "failed to build policy poller"
  | .input => "failed to read stdin"
  | .memory => Failure.memory.message

/-- The exit code of a replay that ends so. -/
def ReplayError.exitCode : ReplayError → Nat
  | .memory => Failure.exitCode .memory
  | _ => 1

/-- A replay under way. -/
structure Replay where
  monitor : Monitor
  log : Log.Batcher
  /-- The outcomes so far, the last one first. -/
  outcomes : List Outcome
  /-- How many there are. -/
  processed : Nat

namespace Replay

/-- After so many outcomes the monitor is swept. -/
def sweepInterval : Nat := 256

/-- A replay at its start, over a span log that was just opened. -/
def start (config : Config) (moment : Moment) (file : Log.LogFile) : Replay where
  monitor := .start config.capture config.filters.chain moment
  log := .ofFile file
  outcomes := []
  processed := 0

/-- A replay at its start over a span log, if that could be opened. -/
def ofLog (config : Config) (moment : Moment) (file : Option Log.LogFile) :
    Except ReplayError Replay := do
  let some file := file | .error .spanLog
  let _ ← (Poller.ofSettings config.policy).mapError .poller
  .ok (start config moment file)

/-- The request a line holds. -/
def requestOf (line : List Char) : Option Exchange :=
  if line.all Text.isBlank then none else (Exchange.ofText (String.ofList line)).toOption

/-- The replay after an outcome. -/
def answered (r : Replay) (m : Monitor) (outcome : Outcome) (record : Log.Record) : Replay :=
  let processed := r.processed + 1
  { monitor := if processed % sweepInterval = 0 then m.sweep else m
    log := (r.log.receive (.span record)).2
    outcomes := outcome :: r.outcomes
    processed := processed }

/-- The replay after a line of text, unless the line ends it. -/
def next (r : Replay) (stamp : Log.Stamp) (line : List Char) : Except ReplayError Replay :=
  match requestOf line with
  | none => .ok r
  | some x =>
    match x.process stamp .unlimited r.monitor with
    | (.error .memory, _, _) => .error .memory
    | (.error _, _, m) => .ok { r with monitor := m }
    | (.ok (outcome, record), _, m) => .ok (r.answered m outcome record)

/-- Takes lines of bytes until one ends the replay. The stamp of an outcome depends on its number. -/
def run (stamps : Nat → Log.Stamp) (r : Replay) : List Bytes → Option ReplayError × Replay
  | [] => (none, r)
  | line :: rest =>
    match Text.Utf8.decode? line with
    | none => (some .input, r)
    | some text =>
      match r.next (stamps r.processed) text with
      | .error cause => (some cause, r)
      | .ok r => run stamps r rest

/-- Ends the replay. Gives the outcomes in order, and the span log. -/
def finish (r : Replay) : List Outcome × Log.LogFile := (r.outcomes.reverse, r.log.close.2)

end Replay

/-- What a replay leaves behind. -/
structure Transcript where
  outcomes : List Outcome
  /-- The span log, unless it could not be opened. -/
  log : Option Log.LogFile
  error : Option ReplayError

def Transcript.exitCode (t : Transcript) : Nat := t.error.elim 0 ReplayError.exitCode

def Transcript.ofInput (config : Config) (moment : Moment) (file : Option Log.LogFile)
    (stamps : Nat → Log.Stamp) (input : Bytes) : Transcript :=
  match Replay.ofLog config moment file with
  | .error cause => ⟨[], file, some cause⟩
  | .ok start =>
    let (error, r) := Replay.run stamps start (Text.linesOf input)
    let log := if error.isNone then r.finish.2 else r.log.exporter.file
    ⟨r.outcomes.reverse, some log, error⟩

end Turnstile.Command
