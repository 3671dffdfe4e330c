import Turnstile.Proofs.Exchange.Isolation
import Turnstile.Proofs.Exchange.Rules
import Turnstile.Proofs.Policy.Chain
import Turnstile.Proofs.Stream.Instrumented
/-!
# Policy enforcement

A request is blocked when the chain says so, of its headers or of the body that was captured, and reported
with the chain's own verdict; a request that is not blocked is answered in full, unless its reply cannot be
written. All this is so as long as the memory for its bodies is granted. Where it is refused, nothing of the
body is judged and nothing of the reply is written.
-/
namespace Turnstile.Exchange

open Policy Capture Turnstile.Stream

/-- The text that the chain judges as the request's body: the parameters of a form, or else what is
captured of a body whose content type passes the gate. -/
def judgedBody (x : Exchange) (settings : Settings) : Option String :=
  match x.form with
  | some params => some (Form.bodyText params)
  | none =>
    let contentType := x.headers.get? "content-type"
    if settings.bodies.request && settings.gate.admits contentType then
      some ((Charset.ofContentType contentType).decode
        ((bytesOf (x.body.getD "")).take settings.bodyLimit))
    else none

/-- The bytes of the response's body. -/
def replyBytes (x : Exchange) : Bytes := ((x.reply.bind Reply.body).map bytesOf).getD []

/-! ## The reply -/

theorem answered_nil (sink : Sink) : sink.Answered [] (.ok ()) sink := by
  show sink.taken = sink.taken ++ ([] : Bytes).toArray
  simp

theorem writeReply_answered {reply : Reply} {m : Monitor} (granted : reply.refused m.settings = false)
    (target : Probe) (span : Nat) (sink : Sink) :
    let a := writeReply reply target span sink m
    ∃ answer, sink.Answered ((reply.body.map bytesOf).getD []) answer a.2.1 ∧
      a.1 = answer.mapError .writing := by
  cases body : reply.body with
  | none =>
    rw [writeReply_none granted body]
    exact ⟨.ok (), answered_nil sink, rfl⟩
  | some text =>
    rw [writeReply_some granted body]
    exact ⟨_, Writer.writeAll_answered target sink (bytesOf text) _, rfl⟩

/-- A request that passes is complete once the sink has taken all of its reply, and fails with the
sink. -/
theorem finish_answered {x : Exchange} {m : Monitor} (granted : x.replyRefused m.settings = false) (v : Verdict)
    (l : Listener) (target : Probe) (span : Nat) (sink : Sink) :
    let a := x.finish v l target span sink m
    ∃ answer, sink.Answered x.replyBytes answer a.2.1 ∧
      a.1 = match answer with
        | .ok _ => .judged v .complete
        | .error f => .failed (.writing f) := by
  cases replied : x.reply with
  | none =>
    have plain : x.replyBytes = [] := by rw [replyBytes, replied]; rfl
    rw [finish_none replied, plain]
    exact ⟨.ok (), answered_nil sink, rfl⟩
  | some reply =>
    have body : x.replyBytes = (reply.body.map bytesOf).getD [] := by rw [replyBytes, replied]; rfl
    rw [replyRefused, replied] at granted
    obtain ⟨answer, answered, came⟩ := writeReply_answered granted target span sink
    rw [← body] at answered
    rcases wrote : writeReply reply target span sink m with ⟨_, sink', m₁⟩
    rw [wrote] at answered came
    cases came
    cases answer with
    | ok done =>
      rw [finish_ok replied wrote]
      exact ⟨.ok (), answered, rfl⟩
    | error f =>
      rw [finish_failed replied (by simp) wrote]
      exact ⟨.error f, answered, rfl⟩

/-! ## The body -/

/-- The verdict on a request with this text for its body. -/
def verdictOn (x : Exchange) (m : Monitor) (body : Option String) : Verdict :=
  m.chain.judge m.moment ⟨x.headers, body⟩

theorem takeBody_none {x : Exchange} {source : Probe} {span : Nat} {m : Monitor}
    (idle : m.depth.depth .byteInput = 0) (unseen : x.judgedBody m.settings = none)
    (free : m.attached? source.store source.resource = none) :
    x.takeBody source span m = (.ok (), m) := by
  rw [judgedBody] at unseen
  cases form : x.form with
  | some params => simp [form] at unseen
  | none =>
    have shut : ¬ (m.settings.bodies.request &&
        m.settings.gate.admits (x.headers.get? "content-type")) = true := by
      intro admits
      simp [form, admits] at unseen
    have plain : (m.attachRequest source.store source.resource span x.headers).2 = m := by
      rw [Monitor.attachRequest, Monitor.attachBody, if_neg shut]
    have granted : x.bodyRefused m.settings = false := by
      rw [bodyRefused, Settings.refuses, eq_false_of_ne_true shut, Bool.false_and, Bool.and_false]
    have bytewise : source.Bytewise m := fun i c here => by
      rw [free] at here
      contradiction
    have read := Reader.readToEnd_chunk source (bytesOf (x.body.getD "")) idle bytewise
    have recorded : source.record m (·.writeBytes (bytesOf (x.body.getD ""))) = m := by
      rw [Probe.record, free]
    have ended : Reader.bodyEnd source m = (.ok (), m) := by
      rw [Reader.bodyEnd, Probe.finalize, free]
      rfl
    rw [recorded, ended] at read
    have first := congrArg Prod.fst read
    have second := congrArg Prod.snd read
    simp only at first second
    rw [takeBody_read form granted, plain, bodyReader, first, second, bodyAnswer]

/-- A captured body ends in what the chain says of its first bytes. -/
theorem bodyEnd_attachNew (m : Monitor) (source : Probe) (span : Nat) (headers : Headers)
    (charset : Charset) (bytes : Bytes) :
    let attached := (m.attachNew source.store source.resource ⟨span, requestBodyKey,
      .bytes (.empty m.settings.bodyLimit charset), charset, .request headers, false⟩).2
    let ended := Reader.bodyEnd source (source.record attached (·.writeBytes bytes))
    let request : Request := ⟨headers, some (charset.decode (bytes.take m.settings.bodyLimit))⟩
    let w := m.chain.judge m.moment request
    ended.1 = (if w.blocked then .error (.blocked w) else .ok ()) ∧
      ended.2.judged = m.judged.push request ∧
      ended.2.spans = (m.write span ((requestBodyKey, charset.decode
        (bytes.take m.settings.bodyLimit)) :: w.attributes.entries)).spans := by
  intro attached ended request w
  have here : attached.attached? source.store source.resource = some m.contexts.size :=
    Monitor.attached?_attachNew m _ _ _
  have last := Monitor.contexts_attachNew m source.store source.resource ⟨span, requestBodyKey,
    .bytes (.empty m.settings.bodyLimit charset), charset, .request headers, false⟩
  have recorded : source.record attached (·.writeBytes bytes) =
      attached.updateContext m.contexts.size (·.writeBytes bytes) := by
    rw [Probe.record, here]
  -- What the context has been shown is the whole body, of which it holds what fits.
  have shown : (attached.updateContext m.contexts.size (·.writeBytes bytes)).contexts[m.contexts.size]? =
      some ⟨span, requestBodyKey, .bytes ((ByteBuffer.empty m.settings.bodyLimit charset).write bytes),
        charset, .request headers, false⟩ := by
    rw [Monitor.contexts_updateContext, if_pos rfl]
    exact congrArg (Option.map (·.writeBytes bytes)) last
  have still : (attached.updateContext m.contexts.size (·.writeBytes bytes)).attached? source.store
      source.resource = some m.contexts.size := here
  have text : ((ByteBuffer.empty m.settings.bodyLimit charset).write bytes).renderAs charset =
      charset.decode (bytes.take m.settings.bodyLimit) := by
    rw [ByteBuffer.renderAs, ByteBuffer.bytes_write]
    rfl
  have acts := Monitor.captureContext_open shown rfl none
  simp only [Context.render, BodyBuffer.render, text] at acts
  have finalized : ended = Reader.bodyEnd source
      (attached.updateContext m.contexts.size (·.writeBytes bytes)) := by rw [← recorded]
  rw [finalized, Reader.bodyEnd, Probe.finalize, still]
  simp only [acts]
  refine ⟨?_, ?_, ?_⟩
  · show (((if w.blocked then Except.error w else .ok Finish.recorded).map some).mapError
      Fault.blocked).map (fun _ => ()) = _
    by_cases blocked : w.blocked
    · rw [if_pos blocked, if_pos blocked]
      rfl
    · rw [if_neg blocked, if_neg blocked]
      rfl
  · show m.judged ++ [request].toArray = _
    simp
  · rfl

theorem attachRequest_admitted {m : Monitor} {source : Probe} {headers : Headers}
    (binary : source.store.kind.isText = false)
    (admits : (m.settings.bodies.request &&
      m.settings.gate.admits (headers.get? "content-type")) = true)
    (granted : m.settings.refuses m.settings.bodies.request (headers.get? "content-type")
      (headers.get? "content-length") = false) (span : Nat) :
    let charset := Charset.ofContentType (headers.get? "content-type")
    (m.attachRequest source.store source.resource span headers).2 =
      (m.attachNew source.store source.resource ⟨span, requestBodyKey,
        .bytes (.empty m.settings.bodyLimit charset), charset, .request headers, false⟩).2 := by
  rw [Monitor.attachRequest_eq binary granted, if_pos admits]
  rfl

theorem bytewise_attachNew (m : Monitor) (source : Probe) {c : Context} {b : ByteBuffer}
    (counts : c.buffer = .bytes b) :
    source.Bytewise (m.attachNew source.store source.resource c).2 := by
  intro i d here held
  cases Option.some.inj ((Monitor.attached?_attachNew m _ _ _).symm.trans here)
  cases Option.some.inj ((Monitor.contexts_attachNew m _ _ _).symm.trans held)
  exact ⟨b, counts⟩

/-- A body that is captured is recorded at its end, and the verdict on it decides. -/
theorem takeBody_captured {x : Exchange} {source : Probe} {m : Monitor}
    (idle : m.depth.depth .byteInput = 0) (binary : source.store.kind.isText = false) (plain : x.form = none)
    (admits : (m.settings.bodies.request &&
      m.settings.gate.admits (x.headers.get? "content-type")) = true)
    (granted : x.bodyRefused m.settings = false) (span : Nat) :
    let b := (Charset.ofContentType (x.headers.get? "content-type")).decode
      ((bytesOf (x.body.getD "")).take m.settings.bodyLimit)
    let w := x.verdictOn m (some b)
    ∃ m', x.takeBody source span m = (verdictAnswer w, m') ∧
      m'.judged = m.judged.push ⟨x.headers, some b⟩ ∧
      m'.spans = (m.write span ((requestBodyKey, b) :: w.attributes.entries)).spans := by
  intro b w
  let charset := Charset.ofContentType (x.headers.get? "content-type")
  let c : Context := ⟨span, requestBodyKey, .bytes (.empty m.settings.bodyLimit charset), charset,
    .request x.headers, false⟩
  have bytewise : source.Bytewise (m.attachNew source.store source.resource c).2 :=
    bytewise_attachNew m source rfl
  have read := Reader.readToEnd_chunk source (bytesOf (x.body.getD "")) (m := (m.attachNew
    source.store source.resource c).2) idle bytewise
  obtain ⟨answer, judged, spans⟩ := bodyEnd_attachNew m source span x.headers charset
    (bytesOf (x.body.getD ""))
  have first := congrArg Prod.fst read
  have second := congrArg Prod.snd read
  refine ⟨_, ?_, judged, spans⟩
  have room := granted
  rw [bodyRefused, plain, Option.isNone_none, Bool.true_and] at room
  rw [takeBody_read plain granted, attachRequest_admitted binary admits room, bodyReader, ← second]
  refine Prod.ext ?_ rfl
  show bodyAnswer _ = verdictAnswer _
  rw [first.trans answer, verdictAnswer]
  show bodyAnswer (if w.blocked then .error (.blocked w) else .ok ()) =
    if w.blocked then .error (.inl w) else .ok ()
  by_cases blocked : w.blocked
  · rw [if_pos blocked, if_pos blocked, bodyAnswer]
  · rw [if_neg blocked, if_neg blocked, bodyAnswer]

/-- What is judged of a request is recorded, and the verdict on it decides. -/
theorem takeBody_some {x : Exchange} {source : Probe} {m : Monitor} {b : String}
    (idle : m.depth.depth .byteInput = 0) (binary : source.store.kind.isText = false)
    (seen : x.judgedBody m.settings = some b) (granted : x.bodyRefused m.settings = false) (span : Nat) :
    let w := x.verdictOn m (some b)
    ∃ m', x.takeBody source span m = (verdictAnswer w, m') ∧
      m'.judged = m.judged.push ⟨x.headers, some b⟩ ∧
      m'.spans = (m.write span ((requestBodyKey, b) :: w.attributes.entries)).spans := by
  intro w
  cases form : x.form with
  | some params =>
    rw [judgedBody, form] at seen
    cases Option.some.inj seen
    exact ⟨_, takeBody_form form source span m, rfl, rfl⟩
  | none =>
    rw [judgedBody, form] at seen
    by_cases admits : (m.settings.bodies.request &&
        m.settings.gate.admits (x.headers.get? "content-type")) = true
    · simp only [if_pos admits] at seen
      cases Option.some.inj seen
      exact takeBody_captured idle binary form admits granted span
    · simp only [if_neg admits] at seen
      contradiction

/-! ## The course -/

section

variable {m : Monitor} {source target : Probe} {span : Nat}

/-- Before anything is attached to the reply, the end of a request records nothing. -/
theorem signal_error_silent {l : Listener} (responses : l.responses = [(target.store, target.resource)])
    (tracked : target.resource ∈ l.tracked) (unhandled : m.isHandled l = false)
    (lacks : (m.registry.store target.store).Lacks target.resource.id) :
    (m.signal l (.error .empty)).2.judged = m.judged ∧
      ∀ j < m.spans.size, (m.signal l (.error .empty)).2.span j = m.span j := by
  have ends : (Signal.error .empty).headers? = some .empty := rfl
  have absent := Monitor.lookUp_of_lacks lacks
  obtain ⟨m', acts, finalized⟩ := Monitor.handle_only responses tracked unhandled
    (by simp [absent]) .empty
  have none : (m.lookUp target.store target.resource).1.toList = [] := by rw [absent]; rfl
  have plain : m.responseHeaderWrites .empty = [] := by
    rw [Monitor.responseHeaderWrites]
    split <;> rfl
  rw [Monitor.signal_eq_handle ends, acts]
  refine ⟨?_, ?_⟩
  · rw [finalized.judged, none]
    simp
  · intro j bound
    rw [finalized.spans j bound, none, plain]
    simp [Monitor.span_setAll_nil]

theorem target_tracked : target.resource ∈ (listening source target span m).1.tracked := by
  simp [listening, Monitor.listen]

/-- Taking the request's body leaves the reply's stream alone and the request open. -/
theorem takeBody_listening {x : Exchange} {m₁ : Monitor} {answer : Except (Verdict ⊕ Failure) Unit}
    (taken : x.takeBody source span (listening source target span m).2 = (answer, m₁)) (sound : m.Sound)
    (vacant : ∀ k, (m.registry.store k).Lacks source.resource.id)
    (lacks : (m.registry.store target.store).Lacks target.resource.id)
    (apart : target.resource.id ≠ source.resource.id) (given : source.resource.id < m.resources.born)
    (made : span < m.spans.size) :
    Monitor.Apart [source.resource.id] (listening source target span m).2 m₁ ∧
      (m₁.registry.store target.store).Lacks target.resource.id ∧
      m₁.isHandled (listening source target span m).1 = false := by
  let heard := (listening source target span m).2
  have sound₀ : heard.Sound := sound.same rfl rfl rfl rfl
  have vacant₀ : ∀ k, ∀ id ∈ [source.resource.id], (heard.registry.store k).Lacks id := by
    intro k id mem
    rw [List.mem_singleton.mp mem]
    exact vacant k
  have stayed := takeBody_apart x (.refl sound₀ vacant₀) (by simp) given made
  rw [taken] at stayed
  refine ⟨stayed, lacks.of_others_eq (stayed.others _) (by simpa using apart), ?_⟩
  rw [Monitor.isHandled, stayed.handled]
  exact m.listen_unhandled span [source.resource] [(target.store, target.resource)]

variable (source target) in
/-- A request whose body is blocked ends there: no reply is written, and its span has the body and what
the verdict says. -/
theorem bodies_of_blocked {x : Exchange} {b : String} (sound : m.Sound)
    (idle : m.depth.depth .byteInput = 0) (binary : source.store.kind.isText = false)
    (lacks : (m.registry.store target.store).Lacks target.resource.id)
    (vacant : ∀ k, (m.registry.store k).Lacks source.resource.id)
    (apart : target.resource.id ≠ source.resource.id) (given : source.resource.id < m.resources.born)
    (made : span < m.spans.size) (seen : x.judgedBody m.settings = some b)
    (granted : x.bodyRefused m.settings = false) (blocked : (x.verdictOn m (some b)).blocked) (v : Verdict)
    (sink : Sink) :
    let w := x.verdictOn m (some b)
    ∃ m', x.bodies v source target span sink m = (.judged w .body, sink, m') ∧
      m'.judged = m.judged.push ⟨x.headers, some b⟩ ∧
      m'.span span = (m.span span).setAll ((requestBodyKey, b) :: w.attributes.entries) := by
  intro w
  obtain ⟨m₁, taken, judged, spans⟩ := takeBody_some (m := (listening source target span m).2) idle
    binary seen granted span
  obtain ⟨stayed, lacks₁, unhandled⟩ := takeBody_listening taken sound vacant lacks apart given made
  have ended : verdictAnswer w = .error (.inl w) := if_pos blocked
  have responses : (listening source target span m).1.responses = [(target.store, target.resource)] := rfl
  have silent := signal_error_silent responses target_tracked unhandled lacks₁
  refine ⟨_, bodies_blocked (taken.trans (by rw [← ended]; rfl)) v sink, ?_, ?_⟩
  · rw [silent.1, judged]
    rfl
  · rw [silent.2 span (by rw [stayed.spanCount]; exact made)]
    have same : m₁.span span = (m.write span ((requestBodyKey, b) :: w.attributes.entries)).span span := by
      rw [Monitor.span, spans]
      rfl
    rw [same, Monitor.span_write (fun _ => made), if_pos rfl]

variable (source target span) in
/-- A request that nothing blocks goes on to its reply. -/
theorem bodies_of_passing {x : Exchange} (idle : m.depth.depth .byteInput = 0)
    (binary : source.store.kind.isText = false)
    (vacant : (m.registry.store source.store).Lacks source.resource.id)
    (passes : ∀ b, x.judgedBody m.settings = some b → (x.verdictOn m (some b)).blocked = false)
    (granted : x.bodyRefused m.settings = false) (v : Verdict) (sink : Sink) :
    ∃ m₁, Monitor.Alike m m₁ ∧ x.bodies v source target span sink m =
      x.finish v (listening source target span m).1 target span sink m₁ := by
  let heard := (listening source target span m).2
  have taken : ∃ m₁, x.takeBody source span heard = (.ok (), m₁) := by
    cases seen : x.judgedBody m.settings with
    | none => exact ⟨_, takeBody_none (m := heard) idle seen vacant.get?_eq_none⟩
    | some b =>
      obtain ⟨m₁, taken, -⟩ := takeBody_some (m := heard) idle binary seen granted span
      have passed : (x.verdictOn heard (some b)).blocked = false := passes b seen
      have ended : verdictAnswer (x.verdictOn heard (some b)) = .ok () := if_neg (by simp [passed])
      exact ⟨m₁, taken.trans (by rw [ended])⟩
  obtain ⟨m₁, taken⟩ := taken
  have alike := x.takeBody_alike source span heard
  rw [taken] at alike
  exact ⟨m₁, (⟨rfl, rfl, rfl⟩ : Monitor.Alike m heard).trans alike, bodies_ok taken v sink⟩

/-- The monitor once the request's headers have been recorded and judged. -/
def headed (x : Exchange) (span : Nat) (m : Monitor) : Monitor :=
  { m.write span (m.requestHeaderWrites x.headers ++ (x.verdictOn m none).attributes.entries) with
    judged := m.judged.push ⟨x.headers, none⟩ }

theorem headed_sound (x : Exchange) (span : Nat) (sound : m.Sound) : (x.headed span m).Sound :=
  sound.same rfl rfl rfl (Monitor.spans_write_size _ _ _)

theorem span_headed (x : Exchange) (made : span < m.spans.size) :
    (x.headed span m).span span = (m.span span).setAll
      (m.requestHeaderWrites x.headers ++ (x.verdictOn m none).attributes.entries) := by
  have wrote := Monitor.span_write (m := m) (s := span) (j := span) (fun _ => made)
    (m.requestHeaderWrites x.headers ++ (x.verdictOn m none).attributes.entries)
  rw [if_pos rfl] at wrote
  exact wrote

theorem run_of_headers_blocked {x : Exchange} (blocked : (x.verdictOn m none).blocked) (sink : Sink) :
    x.run span sink m = (.judged (x.verdictOn m none) .headers, sink, x.headed span m) := by
  apply run_blocked
  rw [Monitor.requestHeaders_eq]
  exact Prod.ext (if_pos blocked) rfl

theorem requestHeaders_of_passing {x : Exchange} (passes : (x.verdictOn m none).blocked = false) :
    m.requestHeaders span x.headers = (.ok (x.verdictOn m none), x.headed span m) := by
  have other : ¬ (x.verdictOn m none).blocked := by simp [passes]
  rw [Monitor.requestHeaders_eq]
  exact Prod.ext (if_neg other) rfl

theorem run_of_body_blocked {x : Exchange} {b : String} (sound : m.Sound) (idle : m.depth = .idle)
    (made : span < m.spans.size) (passes : (x.verdictOn m none).blocked = false)
    (seen : x.judgedBody m.settings = some b) (granted : x.bodyRefused m.settings = false)
    (blocked : (x.verdictOn m (some b)).blocked) (sink : Sink) :
    let w := x.verdictOn m (some b)
    ∃ m', x.run span sink m = (.judged w .body, sink, m') ∧
      m'.judged = (m.judged.push ⟨x.headers, none⟩).push ⟨x.headers, some b⟩ ∧
      m'.span span = (m.span span).setAll (m.requestHeaderWrites x.headers ++
        (x.verdictOn m none).attributes.entries ++ (requestBodyKey, b) :: w.attributes.entries) := by
  intro w
  let s := Probe.create (x.headed span m) ⟨.byteInput, .request⟩
  let t := Probe.create s.2 ⟨.byteOutput, .response⟩
  have sound₁ := x.headed_sound span sound
  have lacks : ∀ id, m.resources.born ≤ id → ∀ k, (t.2.registry.store k).Lacks id :=
    fun id fresh k => sound₁.lacks fresh k
  have depth : t.2.depth.depth .byteInput = 0 := by
    show m.depth.depth .byteInput = 0
    rw [idle]
    rfl
  have written : span < t.2.spans.size := by
    show span < (x.headed span m).spans.size
    rw [headed, Monitor.spans_write_size]
    exact made
  obtain ⟨m', ended, judged, spans⟩ := bodies_of_blocked s.1 t.1 (m := t.2)
    sound₁.newResource.newResource depth rfl (lacks _ (Nat.le_succ _) _) (lacks _ (Nat.le_refl _))
    (Nat.succ_ne_self _) (Nat.lt_succ_of_lt (Nat.lt_succ_self _)) written seen granted blocked
    (x.verdictOn m none) sink
  have headers : m.requestHeaders span x.headers = (.ok (x.verdictOn m none), x.headed span m) :=
    requestHeaders_of_passing passes
  refine ⟨(m'.dropResource s.1.resource).dropResource t.1.resource, ?_, judged, ?_⟩
  · rw [run_ok headers sink]
    show ((x.bodies (x.verdictOn m none) s.1 t.1 span sink t.2).1, _, _) = _
    rw [ended]
    rfl
  · refine spans.trans ?_
    show ((x.headed span m).span span).setAll _ = _
    rw [span_headed x made, Monitor.span_setAll_append]
    rfl

/-- A request whose headers pass and for whose body there is no memory goes no further. -/
theorem run_of_body_refused (span : Nat) {x : Exchange} (passes : (x.verdictOn m none).blocked = false)
    (refused : x.bodyRefused m.settings = true) (sink : Sink) :
    ∃ m', x.run span sink m = (.failed .memory, sink, m') ∧ m'.judged = m.judged.push ⟨x.headers, none⟩ := by
  let s := Probe.create (x.headed span m) ⟨.byteInput, .request⟩
  let t := Probe.create s.2 ⟨.byteOutput, .response⟩
  let heard := (listening s.1 t.1 span t.2).2
  have taken : x.takeBody s.1 span heard = (.error (.inr .memory), heard) :=
    takeBody_refused (m := heard) refused s.1 span
  have ended := bodies_refused taken (x.verdictOn m none) sink
  refine ⟨(heard.dropResource s.1.resource).dropResource t.1.resource, ?_, rfl⟩
  rw [run_ok (requestHeaders_of_passing passes) sink]
  show ((x.bodies (x.verdictOn m none) s.1 t.1 span sink t.2).1, _, _) = _
  rw [ended]

variable (span) in
/-- A request that nothing blocks ends as its reply does. -/
theorem run_of_passing {x : Exchange} (sound : m.Sound) (idle : m.depth = .idle)
    (headersPass : (x.verdictOn m none).blocked = false)
    (bodyPasses : ∀ b, x.judgedBody m.settings = some b → (x.verdictOn m (some b)).blocked = false)
    (granted : x.bodyRefused m.settings = false) (sink : Sink) :
    ∃ l target m₁, Monitor.Alike m m₁ ∧
      (x.run span sink m).1 = (x.finish (x.verdictOn m none) l target span sink m₁).1 ∧
      (x.run span sink m).2.1 = (x.finish (x.verdictOn m none) l target span sink m₁).2.1 := by
  let s := Probe.create (x.headed span m) ⟨.byteInput, .request⟩
  let t := Probe.create s.2 ⟨.byteOutput, .response⟩
  have vacant : (t.2.registry.store s.1.store).Lacks s.1.resource.id :=
    (x.headed_sound span sound).lacks (Nat.le_refl _) _
  have depth : t.2.depth.depth .byteInput = 0 := by
    show m.depth.depth .byteInput = 0
    rw [idle]
    rfl
  obtain ⟨m₁, alike, ended⟩ := bodies_of_passing s.1 t.1 span (m := t.2) depth rfl vacant bodyPasses granted
    (x.verdictOn m none) sink
  have ending := congrArg Prod.fst ended
  have left := congrArg (·.2.1) ended
  refine ⟨(listening s.1 t.1 span t.2).1, t.1, m₁, (⟨rfl, rfl, rfl⟩ : Monitor.Alike m t.2).trans alike, ?_⟩
  rw [run_ok (requestHeaders_of_passing headersPass) sink]
  exact ⟨ending, left⟩

end

theorem span_newSpan (m : Monitor) (writes : List Write) :
    ((m.newSpan.2.span m.spans.size).setAll writes).attributes = Table.ofList writes := by
  simp [Monitor.newSpan, Monitor.span, Span.setAll, Span.empty, Span.attributes]

section

variable {x : Exchange} {m : Monitor}

/-- A request whose headers are blocked is reported so, and what else it carries makes no
difference. -/
theorem process_of_headers_blocked (blocked : (x.verdictOn m none).blocked) (stamp : Log.Stamp)
    (sink : Sink) :
    let v := x.verdictOn m none
    let answer := x.process stamp sink m
    (∃ o record, answer.1 = .ok (o, record) ∧ o.blocked = true ∧ o.status = v.status ∧
      o.reason = v.reason ∧ o.phase = .headers ∧
      o.attributes = Table.ofList (m.requestHeaderWrites x.headers ++ v.attributes.entries)) ∧
    answer.2.1 = sink ∧ answer.2.2.judged = m.judged.push ⟨x.headers, none⟩ ∧
    answer.2.2.contexts = m.contexts ∧
    ∀ y : Exchange, y.headers = x.headers → y.name = x.name →
      y.process stamp sink m = x.process stamp sink m := by
  intro v answer
  have made : m.spans.size < m.newSpan.2.spans.size := by simp [Monitor.newSpan]
  have ended : ∀ y : Exchange, y.headers = x.headers → y.run m.spans.size sink m.newSpan.2 =
      (.judged v .headers, sink, x.headed m.spans.size m.newSpan.2) := by
    intro y same
    have yv : y.verdictOn m.newSpan.2 none = v := by rw [verdictOn, same]; rfl
    have headed_eq : y.headed m.spans.size m.newSpan.2 = x.headed m.spans.size m.newSpan.2 := by
      rw [headed, headed, verdictOn, verdictOn, same]
    rw [run_of_headers_blocked (yv ▸ blocked), yv, headed_eq]
  have processed := process_judged (ended x rfl) stamp
  have attributes : ((x.headed m.spans.size m.newSpan.2).span m.spans.size).attributes =
      Table.ofList (m.requestHeaderWrites x.headers ++ v.attributes.entries) := by
    rw [x.span_headed made]
    exact span_newSpan m _
  refine ⟨⟨_, _, congrArg Prod.fst processed, blocked, rfl, rfl, rfl, attributes⟩,
    congrArg (·.2.1) processed, congrArg (·.2.2.judged) processed,
    congrArg (·.2.2.contexts) processed, ?_⟩
  intro y same name
  have label : y.label = x.label := by rw [Exchange.label, name, Exchange.label]
  rw [processed, process_judged (ended y same) stamp, label]

/-- A request whose body is blocked is reported so, and its reply is not written. -/
theorem process_of_body_blocked {b : String} (sound : m.Sound) (idle : m.depth = .idle)
    (passes : (x.verdictOn m none).blocked = false) (seen : x.judgedBody m.settings = some b)
    (granted : x.bodyRefused m.settings = false) (blocked : (x.verdictOn m (some b)).blocked)
    (stamp : Log.Stamp) (sink : Sink) :
    let v := x.verdictOn m none
    let w := x.verdictOn m (some b)
    let answer := x.process stamp sink m
    (∃ o record, answer.1 = .ok (o, record) ∧ o.blocked = true ∧ o.status = w.status ∧
      o.reason = w.reason ∧ o.phase = .body ∧
      o.attributes = Table.ofList (m.requestHeaderWrites x.headers ++ v.attributes.entries ++
        (requestBodyKey, b) :: w.attributes.entries)) ∧
    answer.2.1 = sink ∧
    answer.2.2.judged = (m.judged.push ⟨x.headers, none⟩).push ⟨x.headers, some b⟩ := by
  intro v w answer
  have made : m.spans.size < m.newSpan.2.spans.size := by simp [Monitor.newSpan]
  obtain ⟨m₁, ended, judged, spans⟩ := run_of_body_blocked (m := m.newSpan.2) (x := x) (b := b)
    sound.newSpan idle made passes seen granted blocked sink
  have processed := process_judged ended stamp
  have attributes : (m₁.span m.spans.size).attributes =
      Table.ofList (m.requestHeaderWrites x.headers ++ v.attributes.entries ++
        (requestBodyKey, b) :: w.attributes.entries) := by
    rw [spans]
    exact span_newSpan m _
  exact ⟨⟨_, _, congrArg Prod.fst processed, blocked, rfl, rfl, rfl, attributes⟩,
    congrArg (·.2.1) processed, (congrArg (·.2.2.judged) processed).trans judged⟩

/-- A request that passes is answered in full, or it fails as the sink does. -/
theorem process_of_passing (sound : m.Sound) (idle : m.depth = .idle)
    (headersPass : (x.verdictOn m none).blocked = false)
    (bodyPasses : ∀ b, x.judgedBody m.settings = some b → (x.verdictOn m (some b)).blocked = false)
    (bodyGranted : x.bodyRefused m.settings = false) (replyGranted : x.replyRefused m.settings = false)
    (stamp : Log.Stamp) (sink : Sink) :
    let answer := x.process stamp sink m
    (∃ o record, answer.1 = .ok (o, record) ∧ o.blocked = false ∧ o.status = .ok ∧ o.reason = "" ∧
      o.phase = .complete ∧ answer.2.1.taken = sink.taken ++ x.replyBytes.toArray) ∨
    ∃ f before last, answer.1 = .error (.writing f) ∧
      sink.intakes = before ++ last :: answer.2.1.intakes ∧
      (last = .fault f ∧ f.isTransient = false ∨ last = .upTo 0 ∧ f = .nothingTaken) := by
  intro answer
  obtain ⟨l, target, before, alike, reached, left⟩ := run_of_passing m.spans.size (m := m.newSpan.2) (x := x)
    sound.newSpan idle headersPass bodyPasses bodyGranted sink
  have granted : x.replyRefused before.settings = false := by
    rw [alike.settings]
    exact replyGranted
  obtain ⟨result, answered, ended⟩ :=
    finish_answered granted (x.verdictOn m.newSpan.2 none) l target m.spans.size sink
  rw [← left] at answered
  rw [← reached] at ended
  rcases ran : x.run m.spans.size sink m.newSpan.2 with ⟨ending, sink₁, m₁⟩
  rw [ran] at answered ended
  cases result with
  | ok done =>
    have complete : ending = .judged (x.verdictOn m none) .complete := ended
    rw [complete] at ran
    have processed := process_judged ran stamp
    have plain := m.chain.judge_plain m.moment ⟨x.headers, none⟩ headersPass
    have taken : sink₁.taken = sink.taken ++ x.replyBytes.toArray := answered
    exact .inl ⟨_, _, congrArg Prod.fst processed, headersPass, plain.1, plain.2, rfl,
      (congrArg (·.2.1.taken) processed).trans taken⟩
  | error f =>
    have failed : ending = .failed (.writing f) := ended
    rw [failed] at ran
    have processed := process_failed ran stamp
    obtain ⟨before, last, listed, cause⟩ := answered
    refine .inr ⟨f, before, last, congrArg Prod.fst processed, ?_, cause⟩
    rw [listed]
    exact congrArg (before ++ last :: ·.2.1.intakes) processed.symm

/-- Without memory for its body a request has no verdict, and nothing of it is judged but the headers. -/
theorem process_of_body_refused (passes : (x.verdictOn m none).blocked = false)
    (refused : x.bodyRefused m.settings = true) (stamp : Log.Stamp) (sink : Sink) :
    let answer := x.process stamp sink m
    answer.1 = .error .memory ∧ answer.2.1 = sink ∧
      answer.2.2.judged = m.judged.push ⟨x.headers, none⟩ := by
  intro answer
  obtain ⟨m', ended, judged⟩ := run_of_body_refused m.spans.size (m := m.newSpan.2) (x := x) passes refused
    sink
  have processed := process_failed ended stamp
  exact ⟨congrArg Prod.fst processed, congrArg (·.2.1) processed,
    (congrArg (·.2.2.judged) processed).trans judged⟩

/-- Without memory for its reply a request has no verdict, and nothing of the reply is written. -/
theorem process_of_reply_refused (sound : m.Sound) (idle : m.depth = .idle)
    (headersPass : (x.verdictOn m none).blocked = false)
    (bodyPasses : ∀ b, x.judgedBody m.settings = some b → (x.verdictOn m (some b)).blocked = false)
    (granted : x.bodyRefused m.settings = false) (refused : x.replyRefused m.settings = true)
    (stamp : Log.Stamp) (sink : Sink) :
    let answer := x.process stamp sink m
    answer.1 = .error .memory ∧ answer.2.1 = sink := by
  intro answer
  obtain ⟨l, target, before, alike, reached, left⟩ := run_of_passing m.spans.size (m := m.newSpan.2) (x := x)
    sound.newSpan idle headersPass bodyPasses granted sink
  have refused : x.replyRefused before.settings = true := by
    rw [alike.settings]
    exact refused
  rw [finish_memory refused] at reached left
  rcases ran : x.run m.spans.size sink m.newSpan.2 with ⟨ending, sink₁, m₁⟩
  rw [ran] at reached left
  cases reached
  have processed := process_failed ran stamp
  exact ⟨congrArg Prod.fst processed, (congrArg (·.2.1) processed).trans left⟩

end

end Turnstile.Exchange
