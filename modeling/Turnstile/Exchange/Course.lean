import Turnstile.Capture.Completion
import Turnstile.Exchange.Outcome
import Turnstile.Stream.Writer
/-!
# The course of an exchange

An exchange runs through the monitor as it would through a server: its headers are judged, its body is
read through an instrumented reader to the end, and its response is written through an instrumented
writer. Whatever ends it, all that was attached on the way is detached, unless the memory for a buffer is
refused: then it does not get to an end.
-/
namespace Turnstile

open Policy Capture Turnstile.Stream

/-- What keeps an exchange from ending in a verdict. -/
inductive Failure
  /-- The request's body cannot be read. -/
  | reading (f : Fault)
  /-- The response's body cannot be written. -/
  | writing (f : Fault)
  /-- The memory for a body's buffer is refused. The thread that processes the exchange ends there, and its
  caller gets no answer. -/
  | memory
deriving DecidableEq

/-- The diagnostic. -/
def Failure.message : Failure → String
  | .reading f => "failed to read request body: " ++ f.message
  | .writing f => "failed to write response body: " ++ f.message
  | .memory => "capacity overflow"

/-- The exit code of a program that ends so. -/
def Failure.exitCode : Failure → Nat
  | .memory => 101
  | _ => 1

/-- How the course of an exchange ends. -/
inductive Ending
  | judged (v : Verdict) (phase : Phase)
  | failed (f : Failure)

namespace Exchange

/-- The bytes of a text. -/
def bytesOf (s : String) : Bytes := Text.Utf8.encode s.toList

/-- The name the exchange goes by. -/
def label (x : Exchange) : String := x.name.getD defaultName

/-- Reads the request's body to the end. The error is the verdict that blocks, or the failure. -/
def readBody (x : Exchange) (source : Probe) (span : Nat) (m : Monitor) :
    Except (Verdict ⊕ Failure) Unit × Monitor :=
  match m.attachRequest source.store source.resource span x.headers with
  | (.refused, m) => (.error (.inr .memory), m)
  | (_, m) =>
    let reader : Reader 1 := .probed source (.script [.chunk (bytesOf (x.body.getD ""))])
    match reader.readToEnd m with
    | (.ok _, _, _, m) => (.ok (), m)
    | (.error (.blocked v), _, _, m) => (.error (.inl v), m)
    | (.error f, _, _, m) => (.error (.inr (.reading f)), m)

/-- Takes in what the request carries: the parameters of a form, or else a body. -/
def takeBody (x : Exchange) (source : Probe) (span : Nat) (m : Monitor) :
    Except (Verdict ⊕ Failure) Unit × Monitor :=
  match x.form with
  | none => x.readBody source span m
  | some params =>
    match m.captureForm ⟨span, requestBodyKey, x.headers, false⟩ params with
    | (.ok _, _, m) => (.ok (), m)
    | (.error v, _, m) => (.error (.inl v), m)

/-- Writes the response's body. -/
def writeReply (reply : Reply) (target : Probe) (span : Nat) (sink : Sink) (m : Monitor) :
    Except Failure Unit × Sink × Monitor :=
  match m.attachResponse target.store target.resource span (reply.headers.get? "content-type")
    (reply.headers.get? "content-length") with
  | (.refused, m) => (.error .memory, sink, m)
  | (_, m) =>
    match reply.body with
    | none => (.ok (), sink, m)
    | some body =>
      let writer : Writer 1 := .probed target (.sink sink)
      let (result, writer, m) := writer.writeAll (bytesOf body) m
      (result.mapError .writing, writer.bottom, m)

/-- Sends the response, and reports the exchange's completion or its failure to the listener. -/
def finish (x : Exchange) (verdict : Verdict) (listener : Listener) (target : Probe) (span : Nat)
    (sink : Sink) (m : Monitor) : Ending × Sink × Monitor :=
  match x.reply with
  | none => (.judged verdict .complete, sink, (m.signal listener (.complete .empty)).2)
  | some reply =>
    match writeReply reply target span sink m with
    | (.ok _, sink, m) =>
      (.judged verdict .complete, sink, (m.signal listener (.complete reply.headers)).2)
    | (.error .memory, sink, m) => (.failed .memory, sink, m)
    | (.error f, sink, m) => (.failed f, sink, (m.signal listener (.error reply.headers)).2)

/-- The course from the request's body on. -/
def bodies (x : Exchange) (verdict : Verdict) (source target : Probe) (span : Nat) (sink : Sink)
    (m : Monitor) : Ending × Sink × Monitor :=
  let (listener, m) := m.listen span [source.resource] [(target.store, target.resource)]
  match x.takeBody source span m with
  | (.ok _, m) => x.finish verdict listener target span sink m
  | (.error (.inr .memory), m) => (.failed .memory, sink, m)
  | (.error cause, m) =>
    let (_, m) := m.signal listener (.error .empty)
    match cause with
    | .inl v => (.judged v .body, sink, m)
    | .inr f => (.failed f, sink, m)

/-- The course of an exchange that is recorded in a span. -/
def run (x : Exchange) (span : Nat) (sink : Sink) (m : Monitor) : Ending × Sink × Monitor :=
  match m.requestHeaders span x.headers with
  | (.error v, m) => (.judged v .headers, sink, m)
  | (.ok verdict, m) =>
    let (source, m) := Probe.create m ⟨.byteInput, .request⟩
    let (target, m) := Probe.create m ⟨.byteOutput, .response⟩
    let (ending, sink, m) := x.bodies verdict source target span sink m
    (ending, sink, (m.dropResource source.resource).dropResource target.resource)

/-- Has the exchange run its course in a span of its own. Gives its outcome with the record of the
span. -/
def process (x : Exchange) (stamp : Log.Stamp) (sink : Sink) (m : Monitor) :
    Except Failure (Outcome × Log.Record) × Sink × Monitor :=
  let (span, m) := m.newSpan
  match x.run span sink m with
  | (.failed f, sink, m) => (.error f, sink, m)
  | (.judged v phase, sink, m) =>
    let record := Log.Record.ofSpan stamp x.label (m.span span).attributes (some v)
    (.ok (.ofRecord record v phase, record), sink, m)

end Exchange
end Turnstile
