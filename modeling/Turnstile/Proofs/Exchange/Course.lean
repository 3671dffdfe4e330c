import Turnstile.Exchange.Course
import Turnstile.Proofs.Capture.Monitor
/-!
# The stages of an exchange

What each stage of an exchange's course comes to: the reading of its body, the recording of its form, and
the writing of its reply. Where the memory for a body is refused, the course goes no further.
-/
namespace Turnstile

open Policy Capture Turnstile.Stream

/-- The memory for the body of a response is refused. -/
def Reply.refused (reply : Reply) (settings : Settings) : Bool :=
  settings.refuses settings.bodies.response (reply.headers.get? "content-type")
    (reply.headers.get? "content-length")

namespace Exchange

/-- The memory for the request's body is refused. A form needs none. -/
def bodyRefused (x : Exchange) (settings : Settings) : Bool :=
  x.form.isNone && settings.refuses settings.bodies.request (x.headers.get? "content-type")
    (x.headers.get? "content-length")

/-- The memory for the response's body is refused, if there is a response. -/
def replyRefused (x : Exchange) (settings : Settings) : Bool := x.reply.any (·.refused settings)

/-- Under a limit that memory can hold, none is refused. -/
theorem not_refused_of_le (x : Exchange) {settings : Settings} (fits : settings.bodyLimit ≤ roomLimit) :
    x.bodyRefused settings = false ∧ x.replyRefused settings = false := by
  constructor
  · rw [bodyRefused, Settings.refuses_of_le fits, Bool.and_false]
  · rw [replyRefused]
    cases x.reply with
    | none => rfl
    | some reply => exact Settings.refuses_of_le fits ..

/-- The reader that the request's body arrives through. -/
def bodyReader (x : Exchange) (source : Probe) : Reader 1 :=
  .probed source (.script [.chunk (bytesOf (x.body.getD ""))])

/-- The writer that the response's body leaves through. -/
def replyWriter (target : Probe) (sink : Sink) : Writer 1 := .probed target (.sink sink)

/-- What the end of a body means for the request: a verdict that blocks is told from other faults. -/
def bodyAnswer : Except Fault Unit → Except (Verdict ⊕ Failure) Unit
  | .ok _ => .ok ()
  | .error (.blocked v) => .error (.inl v)
  | .error f => .error (.inr (.reading f))

section

variable {x : Exchange} {m : Monitor}

theorem attachRequest_refused (plain : x.form = none) (refused : x.bodyRefused m.settings = true)
    (store : StoreKey) (r : Resource) (span : Nat) : m.attachRequest store r span x.headers = (.refused, m) := by
  rw [bodyRefused, plain, Option.isNone_none, Bool.true_and] at refused
  exact Monitor.attachBody_refused refused ..

theorem attachRequest_granted (plain : x.form = none) (granted : x.bodyRefused m.settings = false)
    (store : StoreKey) (r : Resource) (span : Nat) : (m.attachRequest store r span x.headers).1 ≠ .refused := by
  rw [bodyRefused, plain, Option.isNone_none, Bool.true_and] at granted
  rw [Monitor.attachRequest, Monitor.attachBody_granted granted]
  split <;> simp

theorem takeBody_plain (plain : x.form = none) (source : Probe) (span : Nat) (m : Monitor) :
    x.takeBody source span m = x.readBody source span m := by
  rw [takeBody, plain]

/-- A body for which there is no memory is not read. -/
theorem takeBody_refused (refused : x.bodyRefused m.settings = true) (source : Probe) (span : Nat) :
    x.takeBody source span m = (.error (.inr .memory), m) := by
  have plain : x.form = none := by
    rw [bodyRefused, Bool.and_eq_true] at refused
    exact Option.isNone_iff_eq_none.mp refused.1
  rw [takeBody_plain plain, readBody, attachRequest_refused plain refused]

/-- Any other body is read to its end. -/
theorem takeBody_read (plain : x.form = none) (granted : x.bodyRefused m.settings = false) (source : Probe)
    (span : Nat) : x.takeBody source span m =
      (bodyAnswer ((x.bodyReader source).readToEnd
        (m.attachRequest source.store source.resource span x.headers).2).1,
      ((x.bodyReader source).readToEnd
        (m.attachRequest source.store source.resource span x.headers).2).2.2.2) := by
  have attached := attachRequest_granted plain granted source.store source.resource span
  rw [takeBody_plain plain, readBody]
  generalize m.attachRequest source.store source.resource span x.headers = came at attached
  obtain ⟨came, m₁⟩ := came
  show _ = (bodyAnswer ((x.bodyReader source).readToEnd m₁).1,
    ((x.bodyReader source).readToEnd m₁).2.2.2)
  rcases read : (x.bodyReader source).readToEnd m₁ with ⟨answer, arrived, reader, m₂⟩
  rw [bodyReader] at read
  cases came with
  | refused => exact absurd rfl attached
  | nothing | context i =>
    cases answer with
    | ok done => simp only [read, bodyAnswer]
    | error f => cases f <;> simp only [read, bodyAnswer]

end

/-- What the verdict on a body means for the request. -/
def verdictAnswer (v : Verdict) : Except (Verdict ⊕ Failure) Unit :=
  if v.blocked then .error (.inl v) else .ok ()

/-- A form is recorded and judged at once. -/
theorem takeBody_form {x : Exchange} {params : Table String} (given : x.form = some params)
    (source : Probe) (span : Nat) (m : Monitor) :
    let request : Request := ⟨x.headers, some (Form.bodyText params)⟩
    let v := m.chain.judge m.moment request
    x.takeBody source span m = (verdictAnswer v,
      { m.write span ((requestBodyKey, Form.bodyText params) :: v.attributes.entries) with
        judged := m.judged.push request }) := by
  intro request v
  have acts : m.captureForm ⟨span, requestBodyKey, x.headers, false⟩ params =
      (if v.blocked then .error v else .ok .recorded, ⟨span, requestBodyKey, x.headers, true⟩,
        { m.write span ((requestBodyKey, Form.bodyText params) :: v.attributes.entries) with
          judged := m.judged.push request }) := Monitor.captureForm_open rfl m params
  rw [takeBody, given]
  simp only [acts, verdictAnswer]
  by_cases blocked : v.blocked
  · simp only [if_pos blocked]
  · simp only [if_neg blocked]

/-- A reply for whose body there is no memory is not written. -/
theorem writeReply_refused {reply : Reply} {m : Monitor} (refused : reply.refused m.settings = true)
    (target : Probe) (span : Nat) (sink : Sink) :
    writeReply reply target span sink m = (.error .memory, sink, m) := by
  have attached : m.attachResponse target.store target.resource span (reply.headers.get? "content-type")
      (reply.headers.get? "content-length") = (.refused, m) := Monitor.attachBody_refused refused ..
  rw [writeReply, attached]

section

variable {reply : Reply} {m : Monitor}

theorem attachResponse_granted (granted : reply.refused m.settings = false) (store : StoreKey) (r : Resource)
    (span : Nat) : (m.attachResponse store r span (reply.headers.get? "content-type")
      (reply.headers.get? "content-length")).1 ≠ .refused := by
  rw [Monitor.attachResponse, Monitor.attachBody_granted granted]
  split <;> simp

/-- What has been written was granted memory. -/
theorem granted_of_written {target : Probe} {span : Nat} {sink sink' : Sink} {m' : Monitor}
    (wrote : writeReply reply target span sink m = (.ok (), sink', m')) : reply.refused m.settings = false := by
  cases memory : reply.refused m.settings with
  | false => rfl
  | true =>
    rw [writeReply_refused memory] at wrote
    cases congrArg Prod.fst wrote

theorem writeReply_none (granted : reply.refused m.settings = false) (empty : reply.body = none)
    (target : Probe) (span : Nat) (sink : Sink) :
    writeReply reply target span sink m =
      (.ok (), sink, (m.attachResponse target.store target.resource span
        (reply.headers.get? "content-type") (reply.headers.get? "content-length")).2) := by
  have attached := attachResponse_granted granted target.store target.resource span
  rw [writeReply]
  split
  · rename_i refused
    rw [refused] at attached
    exact absurd rfl attached
  · rename_i came
    simp only [empty, came]

theorem writeReply_some {body : String} (granted : reply.refused m.settings = false)
    (given : reply.body = some body) (target : Probe) (span : Nat) (sink : Sink) :
    writeReply reply target span sink m =
      let answer := (replyWriter target sink).writeAll (bytesOf body)
        (m.attachResponse target.store target.resource span (reply.headers.get? "content-type")
          (reply.headers.get? "content-length")).2
      (answer.1.mapError .writing, answer.2.1.bottom, answer.2.2) := by
  have attached := attachResponse_granted granted target.store target.resource span
  rw [writeReply]
  split
  · rename_i refused
    rw [refused] at attached
    exact absurd rfl attached
  · rename_i came
    simp only [given, came]
    rfl

end

section

variable {x : Exchange} {reply : Reply} {target : Probe} {span : Nat} {sink sink' : Sink}
  {m m' : Monitor}

theorem finish_none (replied : x.reply = none) (v : Verdict) (l : Listener) :
    x.finish v l target span sink m =
      (.judged v .complete, sink, (m.signal l (.complete .empty)).2) := by
  simp only [finish, replied]

theorem finish_ok (replied : x.reply = some reply)
    (wrote : writeReply reply target span sink m = (.ok (), sink', m')) (v : Verdict) (l : Listener) :
    x.finish v l target span sink m =
      (.judged v .complete, sink', (m'.signal l (.complete reply.headers)).2) := by
  simp only [finish, replied, wrote]

theorem finish_failed (replied : x.reply = some reply) {f : Failure} (reported : f ≠ .memory)
    (wrote : writeReply reply target span sink m = (.error f, sink', m')) (v : Verdict) (l : Listener) :
    x.finish v l target span sink m = (.failed f, sink', (m'.signal l (.error reply.headers)).2) := by
  cases f with
  | memory => exact absurd rfl reported
  | reading f | writing f => simp only [finish, replied, wrote]

/-- Without memory for the reply's body nothing is reported to the listener. -/
theorem finish_refused (replied : x.reply = some reply)
    (wrote : writeReply reply target span sink m = (.error .memory, sink', m')) (v : Verdict) (l : Listener) :
    x.finish v l target span sink m = (.failed .memory, sink', m') := by
  simp only [finish, replied, wrote]

theorem finish_memory (refused : x.replyRefused m.settings = true) (v : Verdict) (l : Listener) :
    x.finish v l target span sink m = (.failed .memory, sink, m) := by
  cases replied : x.reply with
  | none => simp [replyRefused, replied] at refused
  | some reply =>
    rw [replyRefused, replied] at refused
    exact finish_refused replied (writeReply_refused refused target span sink) v l

end

/-- The exchange's listener, and the monitor that knows of it. -/
def listening (source target : Probe) (span : Nat) (m : Monitor) : Listener × Monitor :=
  m.listen span [source.resource] [(target.store, target.resource)]

section

variable {x : Exchange} {source target : Probe} {span : Nat} {m m₁ : Monitor}

/-- A request that passes is answered. -/
theorem bodies_ok (taken : x.takeBody source span (listening source target span m).2 = (.ok (), m₁))
    (v : Verdict) (sink : Sink) :
    x.bodies v source target span sink m =
      x.finish v (listening source target span m).1 target span sink m₁ := by
  rw [listening] at taken
  simp only [bodies, taken]
  rfl

/-- A request whose body is blocked ends there. -/
theorem bodies_blocked {w : Verdict}
    (taken : x.takeBody source span (listening source target span m).2 = (.error (.inl w), m₁))
    (v : Verdict) (sink : Sink) :
    x.bodies v source target span sink m = (.judged w .body, sink,
      (m₁.signal (listening source target span m).1 (.error .empty)).2) := by
  rw [listening] at taken
  simp only [bodies, taken]
  rfl

theorem bodies_failed {f : Failure} (reported : f ≠ .memory)
    (taken : x.takeBody source span (listening source target span m).2 = (.error (.inr f), m₁))
    (v : Verdict) (sink : Sink) :
    x.bodies v source target span sink m = (.failed f, sink,
      (m₁.signal (listening source target span m).1 (.error .empty)).2) := by
  rw [listening] at taken
  cases f with
  | memory => exact absurd rfl reported
  | reading f | writing f =>
    simp only [bodies, taken]
    rfl

/-- Nor is it without memory for the request's body. -/
theorem bodies_refused
    (taken : x.takeBody source span (listening source target span m).2 = (.error (.inr .memory), m₁))
    (v : Verdict) (sink : Sink) :
    x.bodies v source target span sink m = (.failed .memory, sink, m₁) := by
  rw [listening] at taken
  simp only [bodies, taken]

/-- A request whose headers are blocked ends there. -/
theorem run_blocked {v : Verdict} (judged : m.requestHeaders span x.headers = (.error v, m₁))
    (sink : Sink) : x.run span sink m = (.judged v .headers, sink, m₁) := by
  simp only [run, judged]

/-- Otherwise its body is read through a new stream, and its reply written through another. -/
theorem run_ok {v : Verdict} (judged : m.requestHeaders span x.headers = (.ok v, m₁)) (sink : Sink) :
    x.run span sink m =
      let s := Probe.create m₁ ⟨.byteInput, .request⟩
      let t := Probe.create s.2 ⟨.byteOutput, .response⟩
      let e := x.bodies v s.1 t.1 span sink t.2
      (e.1, e.2.1, (e.2.2.dropResource s.1.resource).dropResource t.1.resource) := by
  simp only [run, judged]

end

section

variable {x : Exchange} {sink sink' : Sink} {m m' : Monitor}

/-- A verdict is reported with what its span has. -/
theorem process_judged {v : Verdict} {phase : Phase}
    (ended : x.run m.spans.size sink m.newSpan.2 = (.judged v phase, sink', m')) (stamp : Log.Stamp) :
    let record := Log.Record.ofSpan stamp x.label (m'.span m.spans.size).attributes (some v)
    x.process stamp sink m = (.ok (.ofRecord record v phase, record), sink', m') := by
  have opened : m.newSpan = (m.spans.size, m.newSpan.2) := rfl
  rw [process, opened]
  simp only [ended]

theorem process_failed {f : Failure}
    (ended : x.run m.spans.size sink m.newSpan.2 = (.failed f, sink', m')) (stamp : Log.Stamp) :
    x.process stamp sink m = (.error f, sink', m') := by
  have opened : m.newSpan = (m.spans.size, m.newSpan.2) := rfl
  rw [process, opened]
  simp only [ended]

end

theorem process_snd (x : Exchange) (stamp : Log.Stamp) (sink : Sink) (m : Monitor) :
    (x.process stamp sink m).2 = (x.run m.spans.size sink m.newSpan.2).2 := by
  rcases ran : x.run m.spans.size sink m.newSpan.2 with ⟨ending, sink', m'⟩
  cases ending with
  | judged v phase => rw [process_judged ran]
  | failed f => rw [process_failed ran]

end Exchange
end Turnstile
