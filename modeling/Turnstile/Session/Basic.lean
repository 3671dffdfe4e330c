import Turnstile.Capture.Completion
import Turnstile.Stream.LineReader
import Turnstile.Stream.Writer
/-!
# Sessions

One caller's dealings with the monitor: its streams, contexts, forms, spans and listeners go by names,
and the calls it has begun form a stack.
-/
namespace Turnstile

open Policy Capture Turnstile.Stream

/-- A stream, or a resource without one. -/
inductive Channel
  | handle (r : Resource)
  | reader {depth : Nat} (r : Reader (depth + 1))
  /-- A reader of lines with the text it appends to. -/
  | lines (r : LineReader) (line : String)
  | writer {depth : Nat} (w : Writer (depth + 1))
  | text (w : TextWriter)

namespace Channel

/-- The instrumented layers, the outermost first. -/
def probes : Channel → List Probe
  | .handle _ => []
  | .reader r => r.probes
  | .lines r _ => [r.probe]
  | .writer w => w.probes
  | .text w => w.layers

/-- Every resource whose handle it holds, that of the outermost layer first. -/
def resources : Channel → List Resource
  | .handle r => [r]
  | c => c.probes.map Probe.resource

/-- The store of the outermost layer. -/
def store? (c : Channel) : Option StoreKey := c.probes.head?.map Probe.store

end Channel

/-- The state of a session. -/
structure Session where
  monitor : Monitor
  channels : Table Channel
  contexts : Table Nat
  spans : Table Nat
  /-- Remembered resources. -/
  keys : Table Resource
  forms : Table Form
  listeners : Table Listener
  /-- The calls under way, the latest first. -/
  calls : List Guard

namespace Session

/-- A session in which nothing has been named. -/
def start (m : Monitor) : Session := ⟨m, .empty, .empty, .empty, .empty, .empty, .empty, []⟩

/-- What something done with the session gives. -/
abbrev Action := StateM Session

/-- Does something with the monitor. -/
def withMonitor {α : Type} (f : Monitor → α × Monitor) : Action α := fun s =>
  let (x, m) := f s.monitor
  (x, { s with monitor := m })

def changeMonitor (f : Monitor → Monitor) : Action Unit := withMonitor fun m => ((), f m)

def dropAll (rs : List Resource) : Action Unit :=
  changeMonitor fun m => rs.foldl Monitor.dropResource m

def setChannel (id : String) (c : Channel) : Action Unit :=
  modify fun s => { s with channels := s.channels.insert id c }

/-- Gives a channel a name, and drops the one that had it. -/
def openChannel (id : String) (c : Channel) : Action Unit := do
  let old := (← get).channels.get? id
  setChannel id c
  dropAll (old.elim [] Channel.resources)

/-- Takes a channel out of the session. -/
def takeChannel (id : String) : Action (Option Channel) := fun s =>
  (s.channels.get? id, { s with channels := s.channels.erase id })

/-- The span of a name; it is new when it is named first. -/
def span (name : String) : Action Nat := do
  match (← get).spans.get? name with
  | some i => return i
  | none =>
    let i ← withMonitor Monitor.newSpan
    modify fun s => { s with spans := s.spans.insert name i }
    return i

def nameContext (name : String) (i : Nat) : Action Unit :=
  modify fun s => { s with contexts := s.contexts.insert name i }

/-- The context of a number. -/
def context (i : Option Nat) : Action (Option Context) := do
  let m := (← get).monitor
  return i.bind fun i => m.contexts[i]?

/-- The total of the writes to each named span. -/
def writes (s : Session) : List (String × Nat) :=
  s.spans.entries.map fun e => (e.1, (s.monitor.span e.2).writes.size)

end Session
end Turnstile
