import Turnstile.Proofs.Exchange.Enforcement
import Turnstile.Proofs.Exchange.Rules
import Turnstile.Proofs.Policy.Configured
/-!
# The report of an exchange

An exchange that ends in a verdict has one report: the verdict that decides, and the overlay of its events
in the order in which they happen. `ruling` and `events` tell both without any streams; `process_report`
says that the course of the exchange comes to the same. It ends in a verdict unless it comes to a body that is
`refused` memory, if only its reply can be written (`process_answered`).
-/
namespace Turnstile.Capture.Monitor

/-- The completion of a request records what is found of its only response, and then the response
headers. -/
theorem signal_recorded {m : Monitor} {l : Listener} {store : StoreKey} {r : Resource}
    (responses : l.responses = [(store, r)]) (tracked : r ∈ l.tracked) (unhandled : m.isHandled l = false)
    (still : ∀ i, (m.lookUp store r).1 = some i → m.Unrecorded i) (made : l.span < m.spans.size)
    (headers : Headers) :
    (m.signal l (.complete headers)).2.span l.span = (m.span l.span).setAll
      ((m.lookUp store r).1.toList.flatMap (m.recording · l.span) ++ m.responseHeaderWrites headers) := by
  obtain ⟨m', acts, finalized⟩ := handle_only responses tracked unhandled still headers
  rw [signal, acts]
  have recorded := finalized.spans l.span made
  rw [if_pos rfl] at recorded
  exact recorded

/-- The context of a response's body of bytes of which nothing has streamed by. -/
def replyContext (m : Monitor) (span : Nat) (contentType : Option String) : Context :=
  let charset := Charset.ofContentType contentType
  ⟨span, responseBodyKey, .bytes (.empty m.settings.bodyLimit charset), charset, .response, false⟩

/-- To a stream of bytes its body's context is attached, or nothing. -/
theorem attachResponse_eq {m : Monitor} {store : StoreKey} (binary : store.kind.isText = false)
    {contentType contentLength : Option String}
    (granted : m.settings.refuses m.settings.bodies.response contentType contentLength = false)
    (r : Resource) (span : Nat) :
    m.attachResponse store r span contentType contentLength =
      if m.settings.bodies.response && m.settings.gate.admits contentType
      then (.context m.contexts.size, (m.attachNew store r (m.replyContext span contentType)).2)
      else (.nothing, m) := by
  rw [attachResponse, attachBody_granted granted, fresh, binary]
  rfl

/-- What is newly attached to a resource that is alive is found under its key. -/
theorem lookUp_attachNew {m : Monitor} {store : StoreKey} {r : Resource}
    (alive : m.resources.isAlive r = true) (c : Context) :
    ((m.attachNew store r c).2.lookUp store r).1 = some m.contexts.size := by
  rw [lookUp_fst, Store.getKey_fst]
  show (((m.registry.attach store r m.contexts.size).store store).slot? r.id).bind _ = _
  rw [Registry.store_attach, if_pos rfl, Store.slot?_attach, if_pos rfl]
  exact if_pos alive

end Turnstile.Capture.Monitor

namespace Turnstile.Exchange

open Policy Capture Turnstile.Stream

/-! ## Events -/

/-- The text recorded of the response's body: what is captured of it, if its content type passes the
gate. -/
def repliedBody (x : Exchange) (settings : Settings) : Option String :=
  x.reply.bind fun reply =>
    let contentType := reply.headers.get? "content-type"
    if settings.bodies.response && settings.gate.admits contentType then
      some ((Charset.ofContentType contentType).decode
        ((bytesOf (reply.body.getD "")).take settings.bodyLimit))
    else none

/-- The headers of the response; a response that is missing has none. -/
def replyHeaders (x : Exchange) : Headers := (x.reply.map Reply.headers).getD .empty

/-- The verdict that decides, and when it is reached. -/
def ruling (x : Exchange) (m : Monitor) : Verdict × Phase :=
  let v := x.verdictOn m none
  if v.blocked then (v, .headers)
  else
    match (x.judgedBody m.settings).map (fun b => x.verdictOn m (some b)) with
    | some w => if w.blocked then (w, .body) else (v, .complete)
    | none => (v, .complete)

/-- The course of the exchange comes to a body for which memory is refused. -/
def refused (x : Exchange) (m : Monitor) : Bool :=
  !(x.verdictOn m none).blocked && (x.bodyRefused m.settings ||
    (x.judgedBody m.settings).all (fun b => !(x.verdictOn m (some b)).blocked) && x.replyRefused m.settings)

/-- What is written before the request's body is looked at. -/
def headEvents (x : Exchange) (m : Monitor) : List Write :=
  m.requestHeaderWrites x.headers ++ (x.verdictOn m none).attributes.entries

/-- What is written of the request's body. -/
def bodyEvents (x : Exchange) (m : Monitor) : List Write :=
  (x.judgedBody m.settings).elim [] fun b =>
    (requestBodyKey, b) :: (x.verdictOn m (some b)).attributes.entries

/-- What is written of the response. -/
def replyEvents (x : Exchange) (m : Monitor) : List Write :=
  ((x.repliedBody m.settings).map fun b => (responseBodyKey, b)).toList ++
    m.responseHeaderWrites x.replyHeaders

/-- All that is written of an exchange until its verdict is reached. -/
def events (x : Exchange) (m : Monitor) : List Write :=
  match (x.ruling m).2 with
  | .headers => x.headEvents m
  | .body => x.headEvents m ++ x.bodyEvents m
  | .complete => x.headEvents m ++ x.bodyEvents m ++ x.replyEvents m

/-- The outcome and the record of an exchange that ends in a verdict. -/
def report (x : Exchange) (m : Monitor) (stamp : Log.Stamp) : Outcome × Log.Record :=
  let record := Log.Record.ofSpan stamp x.label (Table.ofList (x.events m)) (some (x.ruling m).1)
  (.ofRecord record (x.ruling m).1 (x.ruling m).2, record)

/-- A request is blocked by its headers or by its body, or it passes. -/
theorem blocked_or_passes (x : Exchange) (m : Monitor) :
    (x.verdictOn m none).blocked = true ∨ (x.verdictOn m none).blocked = false ∧
      ((∃ b, x.judgedBody m.settings = some b ∧ (x.verdictOn m (some b)).blocked = true) ∨
        ∀ b, x.judgedBody m.settings = some b → (x.verdictOn m (some b)).blocked = false) := by
  cases headers : (x.verdictOn m none).blocked with
  | true => exact .inl rfl
  | false =>
    refine .inr ⟨rfl, ?_⟩
    cases seen : x.judgedBody m.settings with
    | none => simp
    | some b => cases body : (x.verdictOn m (some b)).blocked <;> simp [body]

section

variable {x : Exchange} {m m' : Monitor}

theorem ruling_of_headers_blocked (blocked : (x.verdictOn m none).blocked) :
    x.ruling m = (x.verdictOn m none, .headers) := if_pos blocked

theorem ruling_of_body_blocked {b : String} (passes : (x.verdictOn m none).blocked = false)
    (seen : x.judgedBody m.settings = some b) (blocked : (x.verdictOn m (some b)).blocked) :
    x.ruling m = (x.verdictOn m (some b), .body) := by
  rw [ruling, if_neg (by simp [passes])]
  simp only [seen, Option.map_some]
  exact if_pos blocked

theorem ruling_of_passing (headersPass : (x.verdictOn m none).blocked = false)
    (bodyPasses : ∀ b, x.judgedBody m.settings = some b → (x.verdictOn m (some b)).blocked = false) :
    x.ruling m = (x.verdictOn m none, .complete) := by
  rw [ruling, if_neg (by simp [headersPass])]
  cases seen : x.judgedBody m.settings with
  | none => rfl
  | some b =>
    have other : ¬ (x.verdictOn m (some b)).blocked := by simp [bodyPasses b seen]
    exact if_neg other

/-- Under a limit that memory can hold, none is refused. -/
theorem refused_of_le (x : Exchange) (fits : m.settings.bodyLimit ≤ roomLimit) : x.refused m = false := by
  obtain ⟨body, reply⟩ := x.not_refused_of_le fits
  rw [refused, body, reply, Bool.and_false, Bool.or_false, Bool.and_false]

theorem refused_iff : x.refused m = true ↔ (x.verdictOn m none).blocked = false ∧
    (x.bodyRefused m.settings = true ∨
      (∀ b, x.judgedBody m.settings = some b → (x.verdictOn m (some b)).blocked = false) ∧
        x.replyRefused m.settings = true) := by
  simp [refused, Option.all_eq_true]

theorem verdictOn_alike (x : Exchange) (alike : Monitor.Alike m m') (body : Option String) :
    x.verdictOn m' body = x.verdictOn m body := by
  rw [verdictOn, alike.chain, alike.moment, verdictOn]

/-- Whether memory is refused depends on the settings and on the verdicts only. -/
theorem refused_of_verdicts (settings : m'.settings = m.settings)
    (verdict : ∀ body, x.verdictOn m' body = x.verdictOn m body) : x.refused m' = x.refused m := by
  simp only [refused, verdict, settings]

/-- Monitors that capture and judge alike are refused memory alike. -/
theorem refused_alike (x : Exchange) (alike : Monitor.Alike m m') : x.refused m' = x.refused m :=
  refused_of_verdicts alike.settings (x.verdictOn_alike alike)

/-- What is recorded and ruled depends on the settings and on the verdicts only. -/
theorem events_of_verdicts (settings : m'.settings = m.settings)
    (verdict : ∀ body, x.verdictOn m' body = x.verdictOn m body) :
    x.events m' = x.events m ∧ x.ruling m' = x.ruling m := by
  have same : x.ruling m' = x.ruling m := by simp only [ruling, verdict, settings]
  refine ⟨?_, same⟩
  simp only [events, same, headEvents, bodyEvents, replyEvents, verdict, Monitor.requestHeaderWrites,
    Monitor.responseHeaderWrites, settings]

/-- Monitors that capture and judge alike record and rule alike. -/
theorem events_alike (alike : Monitor.Alike m m') : x.events m' = x.events m ∧ x.ruling m' = x.ruling m :=
  events_of_verdicts alike.settings (x.verdictOn_alike alike)

theorem report_alike (x : Exchange) (alike : Monitor.Alike m m') (stamp : Log.Stamp) :
    x.report m' stamp = x.report m stamp := by
  obtain ⟨events, ruling⟩ := events_alike (x := x) alike
  rw [report, report, events, ruling]

end

/-! ## The course -/

section

variable {x : Exchange} {reply : Reply} {target : Probe} {span : Nat} {sink sink' : Sink}
  {m m' : Monitor}

/-- A reply that has been written has been shown to what is attached. -/
theorem writeReply_shown (idle : m.depth.depth .byteOutput = 0)
    (bytewise : target.Bytewise (m.attachResponse target.store target.resource span
      (reply.headers.get? "content-type") (reply.headers.get? "content-length")).2)
    (wrote : writeReply reply target span sink m = (.ok (), sink', m')) :
    m' = target.record (m.attachResponse target.store target.resource span
      (reply.headers.get? "content-type") (reply.headers.get? "content-length")).2
      (·.writeBytes (bytesOf (reply.body.getD ""))) := by
  have granted := granted_of_written wrote
  cases body : reply.body with
  | none =>
    have nothing : bytesOf ((none : Option String).getD "") = [] := rfl
    rw [writeReply_none granted body] at wrote
    rw [nothing, bytewise.record_nil]
    exact (congrArg (·.2.2) wrote).symm
  | some text =>
    rw [writeReply_some granted body] at wrote
    have depth : (m.attachResponse target.store target.resource span
        (reply.headers.get? "content-type") (reply.headers.get? "content-length")).2.depth = m.depth := by
      rw [Monitor.attachResponse, Monitor.attachBody_granted granted]
      split <;> rfl
    rcases written : (replyWriter target sink).writeAll (bytesOf text) (m.attachResponse target.store
      target.resource span (reply.headers.get? "content-type") (reply.headers.get? "content-length")).2 with
      ⟨answer, w, m₁⟩
    rw [written] at wrote
    cases answer with
    | error f => cases congrArg Prod.fst wrote
    | ok done =>
      cases wrote
      rw [replyWriter] at written
      exact Writer.writeAll_shown (by rw [depth]; exact idle) bytewise written

/-- What holds of a monitor `m'` when the reply has been sent: what is attached to it has been shown all of
it, and is still to be recorded. -/
structure Sent (x : Exchange) (target : Probe) (span : Nat) (m m' : Monitor) : Prop where
  still : ∀ i, (m'.lookUp target.store target.resource).1 = some i → m'.Unrecorded i
  found : (m'.lookUp target.store target.resource).1.toList.flatMap (m'.recording · span) =
    ((x.repliedBody m.settings).map fun b => (responseBodyKey, b)).toList
  spans : m'.spans = m.spans
  handled : m'.handled = m.handled
  settings : m'.settings = m.settings

/-- Of a reply that is not captured nothing is attached. -/
theorem sent_nothing (missing : x.repliedBody m.settings = none)
    (lacks : (m.registry.store target.store).Lacks target.resource.id) : Sent x target span m m where
  still := by
    rw [Monitor.lookUp_of_lacks lacks]
    intro i none
    contradiction
  found := by
    rw [Monitor.lookUp_of_lacks lacks, missing]
    rfl
  spans := rfl
  handled := rfl
  settings := rfl

theorem sent_captured (replied : x.reply = some reply)
    (admits : (m.settings.bodies.response &&
      m.settings.gate.admits (reply.headers.get? "content-type")) = true)
    (alive : m.resources.isAlive target.resource = true) :
    let c := m.replyContext span (reply.headers.get? "content-type")
    Sent x target span m (target.record (m.attachNew target.store target.resource c).2
      (·.writeBytes (bytesOf (reply.body.getD "")))) := by
  intro c
  let bytes := bytesOf (reply.body.getD "")
  let attached := (m.attachNew target.store target.resource c).2
  have here : attached.attached? target.store target.resource = some m.contexts.size :=
    Monitor.attached?_attachNew m _ _ _
  have recorded : target.record attached (·.writeBytes bytes) =
      attached.updateContext m.contexts.size (·.writeBytes bytes) := by
    rw [Probe.record, here]
  have found : ((attached.updateContext m.contexts.size (·.writeBytes bytes)).lookUp target.store
      target.resource).1 = some m.contexts.size := Monitor.lookUp_attachNew alive c
  have held : (attached.updateContext m.contexts.size (·.writeBytes bytes)).contexts[m.contexts.size]? =
      some (c.writeBytes bytes) := by
    rw [Monitor.contexts_updateContext, if_pos rfl]
    exact congrArg (Option.map (·.writeBytes bytes)) (Monitor.contexts_attachNew m _ _ _)
  have text : x.repliedBody m.settings = some (c.writeBytes bytes).render := by
    rw [repliedBody, replied]
    refine (if_pos admits).trans ?_
    show _ = some (((ByteBuffer.empty m.settings.bodyLimit _).write bytes).renderAs _)
    rw [ByteBuffer.renderAs, ByteBuffer.bytes_write]
    rfl
  rw [recorded]
  refine ⟨?_, ?_, rfl, rfl, rfl⟩
  · intro i eq
    rw [found] at eq
    cases eq
    exact ⟨_, held, rfl⟩
  · rw [found, text, Option.toList_some, List.flatMap_singleton, Monitor.recording, held]
    exact if_pos rfl

theorem writeReply_sent (replied : x.reply = some reply) (idle : m.depth.depth .byteOutput = 0)
    (binary : target.store.kind.isText = false) (alive : m.resources.isAlive target.resource = true)
    (lacks : (m.registry.store target.store).Lacks target.resource.id)
    (wrote : writeReply reply target span sink m = (.ok (), sink', m')) : Sent x target span m m' := by
  have attached := Monitor.attachResponse_eq binary (granted_of_written wrote) target.resource span
  by_cases admits : (m.settings.bodies.response &&
      m.settings.gate.admits (reply.headers.get? "content-type")) = true
  · rw [if_pos admits] at attached
    have shown := writeReply_shown idle (by rw [attached]; exact bytewise_attachNew m target rfl) wrote
    rw [shown, attached]
    exact sent_captured replied admits alive
  · rw [if_neg admits] at attached
    have free : m.attached? target.store target.resource = none := lacks.get?_eq_none
    have bytewise : target.Bytewise m := fun i c here => by
      rw [free] at here
      contradiction
    have shown := writeReply_shown idle (by rw [attached]; exact bytewise) wrote
    have missing : x.repliedBody m.settings = none := by
      rw [repliedBody, replied]
      exact if_neg admits
    rw [attached, Probe.record, free] at shown
    rw [shown]
    exact sent_nothing missing lacks

/-- Once the reply has been sent, the completion records it. -/
theorem Sent.signal {l : Listener} (sent : Sent x target span m m') (own : l.span = span)
    (responses : l.responses = [(target.store, target.resource)]) (tracked : target.resource ∈ l.tracked)
    (unhandled : m.isHandled l = false) (made : span < m.spans.size) :
    (m'.signal l (.complete x.replyHeaders)).2.span span =
      (m.span span).setAll (x.replyEvents m) := by
  have unhandled' : m'.isHandled l = false := by
    rw [Monitor.isHandled, sent.handled]
    exact unhandled
  have recorded := Monitor.signal_recorded responses tracked unhandled' sent.still
    (by rw [sent.spans, own]; exact made) x.replyHeaders
  have headers : m'.responseHeaderWrites x.replyHeaders = m.responseHeaderWrites x.replyHeaders := by
    rw [Monitor.responseHeaderWrites, sent.settings, Monitor.responseHeaderWrites]
  rw [own, sent.found, headers, Monitor.span, Monitor.span, sent.spans] at recorded
  exact recorded

/-- An exchange whose body passes is complete once its reply has been sent and recorded. -/
theorem finish_recorded {l : Listener} {v : Verdict} {w : Verdict} {phase : Phase}
    (idle : m.depth.depth .byteOutput = 0) (binary : target.store.kind.isText = false)
    (alive : m.resources.isAlive target.resource = true)
    (lacks : (m.registry.store target.store).Lacks target.resource.id) (own : l.span = span)
    (responses : l.responses = [(target.store, target.resource)]) (tracked : target.resource ∈ l.tracked)
    (unhandled : m.isHandled l = false) (made : span < m.spans.size)
    (ended : x.finish v l target span sink m = (.judged w phase, sink', m')) :
    (w, phase) = (v, .complete) ∧ m'.span span = (m.span span).setAll (x.replyEvents m) := by
  cases replied : x.reply with
  | none =>
    have missing : x.repliedBody m.settings = none := by rw [repliedBody, replied]; rfl
    have headers : x.replyHeaders = .empty := by rw [replyHeaders, replied]; rfl
    have sent : Sent x target span m m := sent_nothing missing lacks
    have signalled := sent.signal own responses tracked unhandled made
    rw [finish_none replied] at ended
    cases ended
    rw [headers] at signalled
    exact ⟨rfl, signalled⟩
  | some reply =>
    have headers : x.replyHeaders = reply.headers := by rw [replyHeaders, replied]; rfl
    rcases wrote : writeReply reply target span sink m with ⟨answer, sink₁, m₁⟩
    cases answer with
    | error f =>
      by_cases memory : f = .memory
      · cases memory
        rw [finish_refused replied wrote] at ended
        cases congrArg Prod.fst ended
      · rw [finish_failed replied memory wrote] at ended
        cases congrArg Prod.fst ended
    | ok done =>
      have sent := writeReply_sent replied idle binary alive lacks wrote
      have signalled := sent.signal own responses tracked unhandled made
      rw [finish_ok replied wrote] at ended
      cases ended
      rw [headers] at signalled
      exact ⟨rfl, signalled⟩

end

/-- What holds of a monitor when the streams of an exchange have just been made. -/
structure Ready (source target : Probe) (span : Nat) (m : Monitor) : Prop where
  sound : m.Sound
  idle : m.depth = .idle
  sourceBinary : source.store.kind.isText = false
  targetBinary : target.store.kind.isText = false
  sourceLacks : ∀ k, (m.registry.store k).Lacks source.resource.id
  targetLacks : ∀ k, (m.registry.store k).Lacks target.resource.id
  apart : target.resource.id ≠ source.resource.id
  given : source.resource.id < m.resources.born
  alive : m.resources.isAlive target.resource = true
  made : span < m.spans.size

section

variable {x : Exchange} {source target : Probe} {span : Nat} {sink sink' : Sink} {m m' : Monitor}

theorem ready_create (sound : m.Sound) (idle : m.depth = .idle) (made : span < m.spans.size) :
    let s := Probe.create m ⟨.byteInput, .request⟩
    let t := Probe.create s.2 ⟨.byteOutput, .response⟩
    Ready s.1 t.1 span t.2 := by
  intro s t
  refine ⟨sound.newResource.newResource, idle, rfl, rfl, sound.lacks (Nat.le_refl _),
    sound.lacks (Nat.le_succ _), Nat.succ_ne_self _, Nat.lt_succ_of_lt (Nat.lt_succ_self _), ?_, made⟩
  show (t.1.resource :: s.2.resources.alive).contains t.1.resource = true
  simp

/-- A body that passes has been recorded with the verdict on it, if it is captured at all. -/
theorem takeBody_recorded (ready : Ready source target span m) (granted : x.bodyRefused m.settings = false)
    (passes : ∀ b, x.judgedBody m.settings = some b → (x.verdictOn m (some b)).blocked = false) :
    ∃ m₁, x.takeBody source span m = (.ok (), m₁) ∧
      m₁.span span = (m.span span).setAll (x.bodyEvents m) := by
  have idle : m.depth.depth .byteInput = 0 := by
    rw [ready.idle]
    rfl
  cases seen : x.judgedBody m.settings with
  | none =>
    have free : m.attached? source.store source.resource = none := (ready.sourceLacks _).get?_eq_none
    refine ⟨m, takeBody_none idle seen free, ?_⟩
    rw [bodyEvents, seen]
    exact (Monitor.span_setAll_nil _).symm
  | some b =>
    obtain ⟨m₁, taken, -, spans⟩ := takeBody_some idle ready.sourceBinary seen granted span
    have passed : verdictAnswer (x.verdictOn m (some b)) = .ok () := if_neg (by simp [passes b seen])
    refine ⟨m₁, taken.trans (by rw [passed]), ?_⟩
    rw [bodyEvents, seen, Monitor.span, spans]
    show (m.write span _).span span = _
    rw [Monitor.span_write (fun _ => ready.made), if_pos rfl]
    rfl

/-- An exchange whose body passes is complete when it ends in a verdict, and has recorded its body and its
reply. -/
theorem bodies_recorded {v w : Verdict} {phase : Phase} (ready : Ready source target span m)
    (granted : x.bodyRefused m.settings = false)
    (passes : ∀ b, x.judgedBody m.settings = some b → (x.verdictOn m (some b)).blocked = false)
    (ended : x.bodies v source target span sink m = (.judged w phase, sink', m')) :
    (w, phase) = (v, .complete) ∧
      m'.span span = (m.span span).setAll (x.bodyEvents m ++ x.replyEvents m) := by
  let heard := (listening source target span m).2
  have ready₀ : Ready source target span heard :=
    { ready with sound := ready.sound.same rfl rfl rfl rfl }
  obtain ⟨m₁, taken, recorded⟩ := takeBody_recorded (m := heard) ready₀ granted passes
  obtain ⟨stayed, lacks, unhandled⟩ := takeBody_listening taken ready.sound ready.sourceLacks
    (ready.targetLacks target.store) ready.apart ready.given ready.made
  have alike := x.takeBody_alike source span heard
  rw [taken] at alike
  have idle : m₁.depth.depth .byteOutput = 0 := by
    rw [stayed.depth, ready₀.idle]
    rfl
  have alive : m₁.resources.isAlive target.resource = true := by
    rw [stayed.resources]
    exact ready.alive
  have own : (listening source target span m).1.span = span := rfl
  have settings : m₁.settings = m.settings := alike.settings
  have replies : x.replyEvents m₁ = x.replyEvents m := by
    simp only [replyEvents, Monitor.responseHeaderWrites, settings]
  rw [bodies_ok taken] at ended
  obtain ⟨complete, signalled⟩ := finish_recorded idle ready.targetBinary alive lacks own rfl
    target_tracked unhandled (by rw [stayed.spanCount]; exact ready.made) ended
  refine ⟨complete, ?_⟩
  rw [signalled, recorded, replies, Monitor.span_setAll_append]
  rfl

/-- However an exchange ends in a verdict, it is the verdict that decides, and the span has all events. -/
theorem run_recorded {v : Verdict} {phase : Phase} (sound : m.Sound) (idle : m.depth = .idle)
    (made : span < m.spans.size) (ended : x.run span sink m = (.judged v phase, sink', m')) :
    (v, phase) = x.ruling m ∧ m'.span span = (m.span span).setAll (x.events m) := by
  have granted : (x.verdictOn m none).blocked = false → x.bodyRefused m.settings = false := by
    intro passes
    cases memory : x.bodyRefused m.settings with
    | false => rfl
    | true =>
      obtain ⟨m₁, stopped, -⟩ := run_of_body_refused span passes memory sink
      rw [stopped] at ended
      cases congrArg Prod.fst ended
  rcases x.blocked_or_passes m with headersBlocked | ⟨headersPass, ⟨b, seen, bodyBlocked⟩ | bodyPasses⟩
  · have ruled := ruling_of_headers_blocked headersBlocked
    rw [run_of_headers_blocked headersBlocked] at ended
    cases ended
    rw [events, ruled]
    exact ⟨rfl, x.span_headed made⟩
  · have ruled := ruling_of_body_blocked headersPass seen bodyBlocked
    obtain ⟨m₁, stopped, -, recorded⟩ := run_of_body_blocked sound idle made headersPass seen
      (granted headersPass) bodyBlocked sink
    rw [stopped] at ended
    cases ended
    refine ⟨ruled.symm, recorded.trans ?_⟩
    rw [events, ruled, bodyEvents, seen]
    rfl
  · have ruled := ruling_of_passing headersPass bodyPasses
    have ready := ready_create (x.headed_sound span sound) idle
      (by rw [headed, Monitor.spans_write_size]; exact made)
    rw [run_ok (requestHeaders_of_passing headersPass)] at ended
    obtain ⟨ending, rest⟩ := Prod.mk.inj ended
    obtain ⟨-, rfl⟩ := Prod.mk.inj rest
    have answered := bodies_recorded ready (granted headersPass) bodyPasses (Prod.ext ending rfl)
    refine ⟨answered.1.trans ruled.symm, ?_⟩
    refine answered.2.trans ?_
    show ((x.headed span m).span span).setAll _ = _
    rw [x.span_headed made, Monitor.span_setAll_append, events, ruled, ← List.append_assoc]
    rfl

end

/-- An exchange that is answered has its report. -/
theorem process_report {x : Exchange} {stamp : Log.Stamp} {sink sink' : Sink} {m m' : Monitor}
    {answer : Outcome × Log.Record} (sound : m.Sound) (idle : m.depth = .idle)
    (answered : x.process stamp sink m = (.ok answer, sink', m')) : answer = x.report m stamp := by
  have made : m.spans.size < m.newSpan.2.spans.size := by simp [Monitor.newSpan]
  rcases ran : x.run m.spans.size sink m.newSpan.2 with ⟨ending, sink₁, m₁⟩
  cases ending with
  | failed f =>
    rw [process_failed ran] at answered
    cases congrArg Prod.fst answered
  | judged v phase =>
    obtain ⟨ruled, recorded⟩ := run_recorded sound.newSpan idle made ran
    obtain ⟨events, ruling⟩ := events_alike (x := x) (⟨rfl, rfl, rfl⟩ : Monitor.Alike m m.newSpan.2)
    have attributes : (m₁.span m.spans.size).attributes = Table.ofList (x.events m) := by
      rw [recorded, span_newSpan, events]
    rw [process_judged ran, attributes] at answered
    rw [ruling] at ruled
    rw [report, ← ruled]
    exact (Except.ok.inj (congrArg Prod.fst answered)).symm

/-- An exchange that is refused memory has none. -/
theorem process_refused {x : Exchange} {m : Monitor} (sound : m.Sound) (idle : m.depth = .idle)
    (refused : x.refused m = true) (stamp : Log.Stamp) (sink : Sink) :
    (x.process stamp sink m).1 = .error .memory ∧ (x.process stamp sink m).2.1 = sink := by
  obtain ⟨headersPass, memory⟩ := refused_iff.mp refused
  cases body : x.bodyRefused m.settings with
  | true =>
    obtain ⟨failed, left, -⟩ := process_of_body_refused headersPass body stamp sink
    exact ⟨failed, left⟩
  | false =>
    rw [body] at memory
    obtain none | ⟨bodyPasses, reply⟩ := memory
    · contradiction
    · exact process_of_reply_refused sound idle headersPass bodyPasses body reply stamp sink

/-- A sink that takes whatever it is offered keeps no other exchange from being answered. -/
theorem process_answered {x : Exchange} {m : Monitor} (sound : m.Sound) (idle : m.depth = .idle)
    (granted : x.refused m = false) (stamp : Log.Stamp) :
    (x.process stamp .unlimited m).1 = .ok (x.report m stamp) := by
  have unrefused := mt refused_iff.mpr (ne_true_of_eq_false granted)
  have ended : ∃ answer, (x.process stamp .unlimited m).1 = .ok answer := by
    rcases x.blocked_or_passes m with
      headersBlocked | ⟨headersPass, ⟨b, seen, bodyBlocked⟩ | bodyPasses⟩
    · obtain ⟨⟨o, record, answered, -⟩, -⟩ := process_of_headers_blocked headersBlocked stamp .unlimited
      exact ⟨_, answered⟩
    · have body : x.bodyRefused m.settings = false :=
        eq_false_of_ne_true fun memory => unrefused ⟨headersPass, .inl memory⟩
      obtain ⟨⟨o, record, answered, -⟩, -⟩ :=
        process_of_body_blocked sound idle headersPass seen body bodyBlocked stamp .unlimited
      exact ⟨_, answered⟩
    · have body : x.bodyRefused m.settings = false :=
        eq_false_of_ne_true fun memory => unrefused ⟨headersPass, .inl memory⟩
      have reply : x.replyRefused m.settings = false :=
        eq_false_of_ne_true fun memory => unrefused ⟨headersPass, .inr ⟨bodyPasses, memory⟩⟩
      rcases process_of_passing sound idle headersPass bodyPasses body reply stamp .unlimited with
        ⟨o, record, answered, -⟩ | ⟨f, before, last, -, refused, -⟩
      · exact ⟨_, answered⟩
      · simp [Sink.unlimited] at refused
  obtain ⟨answer, answered⟩ := ended
  rw [answered, process_report sound idle (Prod.ext answered rfl)]

theorem process_exists {x : Exchange} {m : Monitor} (sound : m.Sound) (idle : m.depth = .idle)
    (granted : x.refused m = false) (stamp : Log.Stamp) :
    ∃ o record sink' m', x.process stamp .unlimited m = (.ok (o, record), sink', m') := by
  have answered := process_answered sound idle granted stamp
  rcases processed : x.process stamp .unlimited m with ⟨_ | ⟨o, record⟩, sink', m'⟩
  · rw [processed] at answered
    contradiction
  · exact ⟨o, record, sink', m', rfl⟩

/-! ## Configured chains -/

section

variable {x : Exchange} {m : Monitor} {r : Roster}

/-- No evaluator that can be configured looks at a body, so the verdict on the headers decides. -/
theorem ruling_of_roster (configured : m.chain = r.chain) : x.ruling m =
    (x.verdictOn m none, if (x.verdictOn m none).blocked = true then .headers else .complete) := by
  have same : ∀ b, x.verdictOn m (some b) = x.verdictOn m none := by
    intro b
    rw [verdictOn, verdictOn, configured]
    exact r.judge_bodiless m.moment x.headers (some b) none
  by_cases blocked : (x.verdictOn m none).blocked = true
  · rw [if_pos blocked, ruling_of_headers_blocked blocked]
  · have passes : (x.verdictOn m none).blocked = false := by simpa using blocked
    rw [if_neg blocked, ruling_of_passing passes fun b _ => by rw [same, passes]]

/-- A request that a configured chain lets pass by its headers is not refused by its body. -/
theorem process_of_roster {stamp : Log.Stamp} {sink sink' : Sink} {m' : Monitor} {o : Outcome}
    {record : Log.Record} (configured : m.chain = r.chain) (sound : m.Sound) (idle : m.depth = .idle)
    (answered : x.process stamp sink m = (.ok (o, record), sink', m')) :
    o.phase = if (x.verdictOn m none).blocked = true then .headers else .complete := by
  have reported : o = (x.report m stamp).1 := congrArg Prod.fst (process_report sound idle answered)
  have phase : (x.report m stamp).1.phase = (x.ruling m).2 := rfl
  rw [reported, phase, ruling_of_roster configured]

end

end Turnstile.Exchange
