import Turnstile.Capture.Completion
import Turnstile.Proofs.Capture.Buffer
import Turnstile.Proofs.Capture.Registry
/-!
# The monitor, operation by operation

What each operation of the monitor does to the spans and to the contexts, and what it leaves alone. `Kept`
is the frame of every call on instrumented streams; `Sound` is what holds of every monitor: nothing is
attached under an id that has not been given out, and every context has its span.
-/
namespace Turnstile.Capture

open Policy

/-! ## Calls -/

namespace CallDepth

theorem set_depth (d : CallDepth) (c : StreamKind) : d.set c (d.depth c) = d := by
  cases c <;> rfl

theorem set_set (d : CallDepth) (c : StreamKind) (n k : Nat) : (d.set c n).set c k = d.set c k := by
  cases c <;> rfl

end CallDepth

/-- A call that ends leaves the depth it found, whatever that was. -/
theorem Guard.drop_enter (d : CallDepth) (c : StreamKind) :
    (Guard.enter d c).1.drop (Guard.enter d c).2 = d := by
  have back : (d.enter c).set c (d.depth c) = d := by
    rw [CallDepth.enter, CallDepth.set_set, CallDepth.set_depth]
  by_cases idle : d.depth c = 0
  · rw [idle] at back
    simpa [Guard.enter, Guard.drop, CallDepth.reset, idle] using back
  · have inside : (d.enter c).depth c = d.depth c + 1 := by
      rw [CallDepth.enter, CallDepth.depth_set, if_pos rfl]
    simpa [Guard.enter, Guard.drop, CallDepth.exit, idle, inside] using back

/-! ## Memory -/

theorem initialRoom_le (length : Option Nat) (capacity : Nat) : initialRoom length capacity ≤ capacity := by
  cases length with
  | none => exact Nat.le_refl _
  | some n => exact Nat.min_le_right ..

namespace Settings

/-- The memory to be set aside for a body of this declared length is granted. -/
def grants (s : Settings) (length : Option Nat) : Bool := initialRoom length s.bodyLimit ≤ roomLimit

theorem grants_iff {s : Settings} {length : Option Nat} :
    s.grants length = true ↔ s.bodyLimit ≤ roomLimit ∨ ∃ n ∈ length, n ≤ roomLimit := by
  rw [grants, decide_eq_true_eq]
  cases length with
  | none => simp [initialRoom]
  | some n =>
    simp only [initialRoom, Option.mem_def, Option.some.injEq, exists_eq_left']
    omega

/-- A body is captured and the memory for it is refused. -/
def refuses (s : Settings) (wanted : Bool) (contentType contentLength : Option String) : Bool :=
  (wanted && s.gate.admits contentType) && !s.grants (declaredLength contentLength)

/-- Under a limit that memory can hold, none is refused. -/
theorem refuses_of_le {s : Settings} (fits : s.bodyLimit ≤ roomLimit) (wanted : Bool)
    (contentType contentLength : Option String) : s.refuses wanted contentType contentLength = false := by
  rw [refuses, grants_iff.mpr (.inl fits), Bool.not_true, Bool.and_false]

end Settings

/-! ## Recording a text -/

namespace Stage

/-- The request that the chain judges when a text is recorded. -/
def request? (stage : Stage) (text : String) : Option Request :=
  match stage with
  | .request headers => some ⟨headers, some text⟩
  | .response => none

/-- The verdict on a recorded text, where there is one. -/
def verdict? (stage : Stage) (chain : Chain) (moment : Moment) (text : String) : Option Verdict :=
  (stage.request? text).map (chain.judge moment)

/-- All that is written when a text is recorded under a key: the text, and then what the verdict on it
has to say. -/
def writes (stage : Stage) (chain : Chain) (moment : Moment) (key text : String) : List Write :=
  (key, text) :: (stage.verdict? chain moment text).elim [] fun v => v.attributes.entries

/-- What the recording of a text is answered: the verdict on it, if that blocks. -/
def answer (stage : Stage) (chain : Chain) (moment : Moment) (text : String) : Except Verdict Finish :=
  match stage.verdict? chain moment text with
  | some v => if v.blocked then .error v else .ok .recorded
  | none => .ok .recorded

end Stage

theorem recordEffect_eq (chain : Chain) (moment : Moment) (key text : String) (stage : Stage) :
    recordEffect chain moment key text stage =
      ⟨stage.writes chain moment key text, stage.request? text, stage.answer chain moment text⟩ := by
  cases stage with
  | response => rfl
  | request headers =>
    by_cases blocked : (chain.judge moment ⟨headers, some text⟩).blocked <;>
      simp [recordEffect, verdictEffect, Stage.writes, Stage.answer, Stage.verdict?, Stage.request?,
        blocked, Except.map]

/-! ## Changing one place -/

section

variable {α : Type} {xs : Array α} {i : Nat} {f g : α → α}

theorem modify_congr (same : ∀ a, xs[i]? = some a → f a = g a) : xs.modify i f = xs.modify i g := by
  apply Array.ext_getElem?
  intro j
  rw [Array.getElem?_modify, Array.getElem?_modify]
  by_cases here : i = j
  · rw [if_pos here, if_pos here, ← here]
    cases held : xs[i]? with
    | none => rfl
    | some a => rw [Option.map_some, Option.map_some, same a held]
  · rw [if_neg here, if_neg here]

theorem modify_same (fixed : ∀ a, xs[i]? = some a → f a = a) : xs.modify i f = xs := by
  have kept : xs.modify i id = xs := by
    apply Array.ext_getElem?
    intro j
    rw [Array.getElem?_modify, Option.map_id, id, ite_self]
  rw [modify_congr fixed]
  exact kept

theorem modify_modify : (xs.modify i f).modify i g = xs.modify i fun a => g (f a) := by
  apply Array.ext_getElem?
  intro j
  rw [Array.getElem?_modify, Array.getElem?_modify, Array.getElem?_modify]
  by_cases here : i = j
  · rw [if_pos here, if_pos here, if_pos here, Option.map_map]
    rfl
  · rw [if_neg here, if_neg here, if_neg here]

end

namespace Monitor

/-! ## Spans -/

theorem span_setAll_nil (s : Span) : s.setAll [] = s := by
  simp [Span.setAll]

theorem span_setAll_append (s : Span) (first second : List Write) :
    (s.setAll first).setAll second = s.setAll (first ++ second) := by
  simp [Span.setAll]

/-- A write to a span that exists adds to it and to no other. -/
theorem span_write {m : Monitor} {s j : Nat} (made : s = j → s < m.spans.size) (writes : List Write) :
    (m.write s writes).span j = if s = j then (m.span j).setAll writes else m.span j := by
  rw [span, write, Array.getElem?_modify]
  by_cases here : s = j
  · have bound := made here
    subst here
    simp [span, bound]
  · simp [span, here]

theorem spans_write_size (m : Monitor) (s : Nat) (writes : List Write) :
    (m.write s writes).spans.size = m.spans.size := by
  simp [write]

theorem write_nil (m : Monitor) (s : Nat) : m.write s [] = m := by
  rw [write, modify_same fun span _ => span_setAll_nil span]

theorem write_write (m : Monitor) (s : Nat) (first second : List Write) :
    (m.write s first).write s second = m.write s (first ++ second) := by
  simp only [write, modify_modify, span_setAll_append]

theorem updateContext_congr {m : Monitor} {i : Nat} {f g : Context → Context}
    (same : ∀ c, m.contexts[i]? = some c → f c = g c) : m.updateContext i f = m.updateContext i g := by
  rw [updateContext, modify_congr same, updateContext]

/-- A change that leaves a context as it is leaves everything as it is. -/
theorem updateContext_same {m : Monitor} {i : Nat} {f : Context → Context}
    (fixed : ∀ c, m.contexts[i]? = some c → f c = c) : m.updateContext i f = m := by
  rw [updateContext, modify_same fixed]

theorem updateContext_updateContext (m : Monitor) (i : Nat) (f g : Context → Context) :
    (m.updateContext i f).updateContext i g = m.updateContext i fun c => g (f c) := by
  rw [updateContext, updateContext, modify_modify, updateContext]

theorem contexts_updateContext (m : Monitor) (i j : Nat) (f : Context → Context) :
    (m.updateContext i f).contexts[j]? =
      if i = j then (m.contexts[j]?).map f else m.contexts[j]? := by
  rw [updateContext, Array.getElem?_modify]

/-! ## Recording a context -/

theorem captureContext_absent {m : Monitor} {i : Nat} (absent : m.contexts[i]? = none)
    (key : Option String) : m.captureContext i key = (.ok .alreadyCaptured, m) := by
  rw [captureContext, absent]

/-- A body that has been recorded is not recorded again. -/
theorem captureContext_captured {m : Monitor} {i : Nat} {c : Context} (held : m.contexts[i]? = some c)
    (done : c.captured = true) (key : Option String) :
    m.captureContext i key = (.ok .alreadyCaptured, m) := by
  have idle : c.captureAs m.chain m.moment (key.getD c.key) = (c, idleEffect) := by
    rw [Context.captureAs, if_pos done]
  have same : (m.updateContext i fun _ => c) = m :=
    updateContext_same fun c' held' => Option.some.inj (held.symm.trans held')
  simp only [captureContext, held, idle, same, perform, idleEffect, write_nil, Option.toArray_none,
    Array.append_empty]

/-- A body that has not been recorded is recorded as it is. -/
theorem captureContext_open {m : Monitor} {i : Nat} {c : Context} (held : m.contexts[i]? = some c)
    (fresh : c.captured = false) (key : Option String) :
    m.captureContext i key =
      (m.updateContext i fun _ => { c with captured := true }).perform c.span
        ⟨c.stage.writes m.chain m.moment (key.getD c.key) c.render, c.stage.request? c.render,
          c.stage.answer m.chain m.moment c.render⟩ := by
  have acts : c.captureAs m.chain m.moment (key.getD c.key) =
      ({ c with captured := true },
        recordEffect m.chain m.moment (key.getD c.key) c.render c.stage) := by
    rw [Context.captureAs, if_neg (by simp [fresh])]
  simp only [captureContext, held, acts, recordEffect_eq]

/-! ## Recording a form -/

/-- A form that has been recorded is not recorded again. -/
theorem captureForm_captured {f : Form} (done : f.captured = true) (m : Monitor) (params : Table String) :
    m.captureForm f params = (.ok .alreadyCaptured, f, m) := by
  have idle : f.capture m.chain m.moment params = (f, idleEffect) := by
    rw [Form.capture, if_pos done]
  simp only [captureForm, idle, perform, idleEffect, write_nil, Option.toArray_none, Array.append_empty]

/-- A form that has not been recorded is recorded as the text of its parameters. -/
theorem captureForm_open {f : Form} (fresh : f.captured = false) (m : Monitor) (params : Table String) :
    let text := Form.bodyText params
    let v := m.chain.judge m.moment ⟨f.headers, some text⟩
    m.captureForm f params = (if v.blocked then .error v else .ok .recorded, { f with captured := true },
      { m.write f.span ((f.key, text) :: v.attributes.entries) with
        judged := m.judged.push ⟨f.headers, some text⟩ }) := by
  intro text v
  have acts : f.capture m.chain m.moment params =
      ({ f with captured := true }, recordEffect m.chain m.moment f.key text (.request f.headers)) := by
    rw [Form.capture, if_neg (by simp [fresh])]
  simp only [captureForm, acts, recordEffect_eq, perform]
  rfl

/-! ## Recording headers -/

/-- What the recording of request headers writes. -/
def requestHeaderWrites (m : Monitor) (headers : Headers) : List Write :=
  if m.settings.headers.request then headers.toList.map fun e => (requestHeaderKey e.1, e.2) else []

/-- What the recording of response headers writes. -/
def responseHeaderWrites (m : Monitor) (headers : Headers) : List Write :=
  if m.settings.headers.response then headers.toList.map fun e => (responseHeaderKey e.1, e.2) else []

theorem recordRequestHeaders_eq (m : Monitor) (span : Nat) (headers : Headers) :
    m.recordRequestHeaders span headers = m.write span (m.requestHeaderWrites headers) := by
  rw [recordRequestHeaders, requestHeaderWrites]
  by_cases shown : m.settings.headers.request
  · rw [if_pos shown, if_pos shown]
  · rw [if_neg shown, if_neg shown, write_nil]

theorem responseHeaders_eq (m : Monitor) (span : Nat) (headers : Headers) :
    m.responseHeaders span headers = m.write span (m.responseHeaderWrites headers) := by
  rw [responseHeaders, responseHeaderWrites]
  by_cases shown : m.settings.headers.response
  · rw [if_pos shown, if_pos shown]
  · rw [if_neg shown, if_neg shown, write_nil]

/-- The request headers are recorded and judged, and then what the verdict has to say. -/
theorem requestHeaders_eq (m : Monitor) (span : Nat) (headers : Headers) :
    let request : Request := ⟨headers, none⟩
    let v := m.chain.judge m.moment request
    m.requestHeaders span headers = (if v.blocked then .error v else .ok v,
      { m.write span (m.requestHeaderWrites headers ++ v.attributes.entries) with
        judged := m.judged.push request }) := by
  intro request v
  rw [requestHeaders, recordRequestHeaders_eq, ← write_write]
  rfl

/-! ## Attaching -/

theorem attached?_attachNew (m : Monitor) (store : StoreKey) (r : Resource) (c : Context) :
    (m.attachNew store r c).2.attached? store r = some m.contexts.size := by
  show ((m.registry.attach store r m.contexts.size).store store).get? r = _
  rw [Registry.store_attach, if_pos rfl, Store.get?_attach]

theorem contexts_attachNew (m : Monitor) (store : StoreKey) (r : Resource) (c : Context) :
    (m.attachNew store r c).2.contexts[m.contexts.size]? = some c := by
  simp [attachNew, newContext]

/-- The declared length decides whether there is a new buffer, and is not seen in it. -/
theorem newBuffer_eq (m : Monitor) (c : StreamKind) (charset : Charset) (length : Option Nat) :
    m.newBuffer c charset length = if m.settings.grants length then
      some (if c.isText then .chars (.empty m.settings.bodyLimit) else .bytes (.empty m.settings.bodyLimit charset))
    else none := by
  have within : min (initialRoom length m.settings.bodyLimit) m.settings.bodyLimit =
      initialRoom length m.settings.bodyLimit := Nat.min_eq_left (initialRoom_le _ _)
  simp only [newBuffer, CharBuffer.allocate, ByteBuffer.allocate_eq, within, Settings.grants, decide_eq_true_eq]
  by_cases granted : initialRoom length m.settings.bodyLimit ≤ roomLimit
  · simp only [if_pos granted, Option.map_some, apply_ite some]
  · simp only [if_neg granted, Option.map_none, ite_self]

/-- The context of a body of which nothing has streamed by. -/
def fresh (m : Monitor) (store : StoreKey) (span : Nat) (key : String) (stage : Stage)
    (contentType : Option String) : Context :=
  let charset := Charset.ofContentType contentType
  let buffer := if store.kind.isText then BodyBuffer.chars (.empty m.settings.bodyLimit)
    else .bytes (.empty m.settings.bodyLimit charset)
  ⟨span, key, buffer, charset, stage, false⟩

/-- A body's context is attached to a stream, or nothing, or the memory for it is refused. -/
theorem attachBody_eq (m : Monitor) (store : StoreKey) (r : Resource) (span : Nat) (wanted : Bool) (key : String)
    (stage : Stage) (contentType contentLength : Option String) :
    m.attachBody store r span wanted key stage contentType contentLength =
      if wanted && m.settings.gate.admits contentType then
        if m.settings.grants (declaredLength contentLength)
        then (.context m.contexts.size, (m.attachNew store r (m.fresh store span key stage contentType)).2)
        else (.refused, m)
      else (.nothing, m) := by
  simp only [attachBody, newBuffer_eq]
  cases m.settings.grants (declaredLength contentLength) <;> rfl

section

variable {m : Monitor} {wanted : Bool} {contentType contentLength : Option String}

theorem attachBody_refused (refused : m.settings.refuses wanted contentType contentLength = true)
    (store : StoreKey) (r : Resource) (span : Nat) (key : String) (stage : Stage) :
    m.attachBody store r span wanted key stage contentType contentLength = (.refused, m) := by
  rw [Settings.refuses, Bool.and_eq_true, Bool.not_eq_true'] at refused
  rw [attachBody_eq, if_pos refused.1, if_neg (by simp [refused.2])]

theorem attachBody_granted (granted : m.settings.refuses wanted contentType contentLength = false)
    (store : StoreKey) (r : Resource) (span : Nat) (key : String) (stage : Stage) :
    m.attachBody store r span wanted key stage contentType contentLength =
      if wanted && m.settings.gate.admits contentType
      then (.context m.contexts.size, (m.attachNew store r (m.fresh store span key stage contentType)).2)
      else (.nothing, m) := by
  rw [attachBody_eq]
  by_cases admits : (wanted && m.settings.gate.admits contentType) = true
  · have some : m.settings.grants (declaredLength contentLength) = true := by
      simpa [Settings.refuses, admits] using granted
    rw [if_pos admits, if_pos admits, if_pos some]
  · rw [if_neg admits, if_neg admits]

end

/-- The context of a request's body of bytes of which nothing has streamed by. -/
def bodyContext (m : Monitor) (span : Nat) (headers : Headers) : Context :=
  let charset := Charset.ofContentType (headers.get? "content-type")
  ⟨span, requestBodyKey, .bytes (.empty m.settings.bodyLimit charset), charset, .request headers, false⟩

/-- To a stream of bytes its body's context is attached, or nothing. -/
theorem attachRequest_eq {m : Monitor} {store : StoreKey} (binary : store.kind.isText = false) {headers : Headers}
    (granted : m.settings.refuses m.settings.bodies.request (headers.get? "content-type")
      (headers.get? "content-length") = false) (r : Resource) (span : Nat) :
    m.attachRequest store r span headers =
      if m.settings.bodies.request && m.settings.gate.admits (headers.get? "content-type")
      then (.context m.contexts.size, (m.attachNew store r (m.bodyContext span headers)).2)
      else (.nothing, m) := by
  rw [attachRequest, attachBody_granted granted, fresh, binary]
  rfl

/-! ## What a call leaves alone -/

/-- What calls on streams with these probes leave as it was: everything but the spans, the judged
requests and the contexts attached to the probes, and of those the span they are recorded in. -/
structure Kept (probes : List Probe) (m m' : Monitor) : Prop where
  settings : m'.settings = m.settings
  chain : m'.chain = m.chain
  moment : m'.moment = m.moment
  resources : m'.resources = m.resources
  registry : m'.registry = m.registry
  depth : m'.depth = m.depth
  handled : m'.handled = m.handled
  contexts : ∀ i, (∀ p ∈ probes, m.attached? p.store p.resource ≠ some i) →
    m'.contexts[i]? = m.contexts[i]?
  contextSpans : ∀ i : Nat, (m'.contexts[i]?).map Context.span = (m.contexts[i]?).map Context.span
  contextCount : m'.contexts.size = m.contexts.size
  spanCount : m'.spans.size = m.spans.size

namespace Kept

variable {probes more : List Probe} {m m₁ m₂ : Monitor}

theorem refl (probes : List Probe) (m : Monitor) : Kept probes m m :=
  ⟨rfl, rfl, rfl, rfl, rfl, rfl, rfl, fun _ _ => rfl, fun _ => rfl, rfl, rfl⟩

theorem attached? (kept : Kept probes m m₁) (store : StoreKey) (r : Resource) :
    m₁.attached? store r = m.attached? store r := by
  rw [Monitor.attached?, kept.registry, Monitor.attached?]

theorem trans (first : Kept probes m m₁) (second : Kept probes m₁ m₂) : Kept probes m m₂ where
  settings := second.settings.trans first.settings
  chain := second.chain.trans first.chain
  moment := second.moment.trans first.moment
  resources := second.resources.trans first.resources
  registry := second.registry.trans first.registry
  depth := second.depth.trans first.depth
  handled := second.handled.trans first.handled
  contexts := fun i free => by
    have free₁ : ∀ p ∈ probes, m₁.attached? p.store p.resource ≠ some i := by
      intro p mem
      rw [first.attached?]
      exact free p mem
    exact (second.contexts i free₁).trans (first.contexts i free)
  contextSpans := fun i => (second.contextSpans i).trans (first.contextSpans i)
  contextCount := second.contextCount.trans first.contextCount
  spanCount := second.spanCount.trans first.spanCount

theorem mono (kept : Kept probes m m₁) (sub : ∀ p ∈ probes, p ∈ more) : Kept more m m₁ :=
  { kept with contexts := fun i free => kept.contexts i fun p mem => free p (sub p mem) }

/-- Around what happens inside a call, the depth is as it was before. -/
theorem leave {c : StreamKind} {guard : Guard} (entered : m.enter c = (guard, m₁))
    (kept : Kept probes m₁ m₂) : Kept probes m (m₂.leave guard) := by
  obtain ⟨rfl, rfl⟩ := Prod.mk.inj entered
  refine ⟨kept.settings, kept.chain, kept.moment, kept.resources, kept.registry, ?_, kept.handled,
    kept.contexts, kept.contextSpans, kept.contextCount, kept.spanCount⟩
  have inside : m₂.depth = (Guard.enter m.depth c).2 := kept.depth
  rw [Monitor.leave, inside]
  exact Guard.drop_enter m.depth c

end Kept

theorem updateContext_kept {m : Monitor} {p : Probe} {i : Nat}
    (here : m.attached? p.store p.resource = some i) {f : Context → Context}
    (same : ∀ c, m.contexts[i]? = some c → (f c).span = c.span) :
    Kept [p] m (m.updateContext i f) where
  settings := rfl
  chain := rfl
  moment := rfl
  resources := rfl
  registry := rfl
  depth := rfl
  handled := rfl
  contexts := fun j free => by
    have ne : i ≠ j := fun eq => free p (List.mem_singleton.mpr rfl) (eq ▸ here)
    rw [contexts_updateContext, if_neg ne]
  contextSpans := fun j => by
    rw [contexts_updateContext]
    by_cases eq : i = j
    · rw [if_pos eq]
      cases held : m.contexts[j]? with
      | none => rfl
      | some c => simp [same c (eq ▸ held)]
    · rw [if_neg eq]
  contextCount := by simp [updateContext]
  spanCount := rfl

theorem perform_kept {α : Type} (probes : List Probe) (m : Monitor) (span : Nat) (e : Effect α) :
    Kept probes m (m.perform span e).2 :=
  ⟨rfl, rfl, rfl, rfl, rfl, rfl, rfl, fun _ _ => rfl, fun _ => rfl, rfl,
    spans_write_size m span e.writes⟩

theorem captureContext_kept {m : Monitor} {p : Probe} {i : Nat}
    (here : m.attached? p.store p.resource = some i) (key : Option String) :
    Kept [p] m (m.captureContext i key).2 := by
  cases held : m.contexts[i]? with
  | none =>
    rw [captureContext_absent held]
    exact .refl [p] m
  | some c =>
    cases done : c.captured with
    | true =>
      rw [captureContext_captured held done]
      exact .refl [p] m
    | false =>
      rw [captureContext_open held done]
      have same : ∀ c', m.contexts[i]? = some c' → c.span = c'.span := by
        intro c' held'
        rw [Option.some.inj (held.symm.trans held')]
      have marked : Kept [p] m (m.updateContext i fun _ => { c with captured := true }) :=
        updateContext_kept here same
      exact marked.trans (perform_kept [p] _ _ _)

end Monitor

namespace Probe

theorem record_kept (p : Probe) (m : Monitor) {f : Context → Context}
    (same : ∀ c, (f c).span = c.span) : Monitor.Kept [p] m (p.record m f) := by
  cases here : m.attached? p.store p.resource with
  | none =>
    rw [record, here]
    exact .refl [p] m
  | some i =>
    rw [record, here]
    exact Monitor.updateContext_kept here fun c _ => same c

theorem finalize_kept (p : Probe) (m : Monitor) : Monitor.Kept [p] m (p.finalize m).2 := by
  cases here : m.attached? p.store p.resource with
  | none =>
    simp only [finalize, here]
    exact .refl [p] m
  | some i =>
    simp only [finalize, here]
    exact Monitor.captureContext_kept here none

end Probe

namespace Context

theorem span_writeBytes (c : Context) (bytes : Bytes) : (c.writeBytes bytes).span = c.span := by
  by_cases done : c.captured <;> simp [writeBytes, done]

end Context

/-! ## Soundness -/

/-- What holds of every monitor. -/
structure Monitor.Sound (m : Monitor) : Prop where
  /-- Entries stand only under ids that have been given out. -/
  owners : ∀ k, ∀ slot ∈ (m.registry.store k).slots, slot.owner.id < m.resources.born
  /-- Every attached context exists. -/
  values : ∀ k, ∀ slot ∈ (m.registry.store k).slots, slot.value < m.contexts.size
  /-- Every resource that is alive has been made. -/
  alive : ∀ r ∈ m.resources.alive, r.birth < m.resources.born
  /-- Every context is recorded in a span that exists. -/
  spans : ∀ (i : Nat) (c : Context), m.contexts[i]? = some c → c.span < m.spans.size

namespace Monitor

theorem start_sound (settings : Settings) (chain : Chain) (moment : Moment) :
    (start settings chain moment).Sound where
  owners := by simp [start, Store.empty]
  values := by simp [start, Store.empty]
  alive := by simp [start, Resources.none]
  spans := by simp [start]

namespace Sound

variable {m m' : Monitor}

theorem lacks (sound : m.Sound) {id : Nat} (fresh : m.resources.born ≤ id) (k : StoreKey) :
    (m.registry.store k).Lacks id := by
  intro slot mem eq
  have given := sound.owners k slot mem
  omega

theorem kept {probes : List Probe} (sound : m.Sound) (kept : Kept probes m m') : m'.Sound where
  owners := by
    rw [kept.registry, kept.resources]
    exact sound.owners
  values := by
    rw [kept.registry, kept.contextCount]
    exact sound.values
  alive := by
    rw [kept.resources]
    exact sound.alive
  spans := by
    intro i c' held'
    have same := kept.contextSpans i
    rw [held'] at same
    cases held : m.contexts[i]? with
    | none => simp [held] at same
    | some c =>
      rw [held] at same
      have eq : c'.span = c.span := by simpa using same
      rw [kept.spanCount, eq]
      exact sound.spans i c held

/-- What a monitor writes and has judged does not matter. -/
theorem same (sound : m.Sound) (registry : m'.registry = m.registry)
    (contexts : m'.contexts = m.contexts) (resources : m'.resources = m.resources)
    (spans : m'.spans.size = m.spans.size) : m'.Sound where
  owners := by
    rw [registry, resources]
    exact sound.owners
  values := by
    rw [registry, contexts]
    exact sound.values
  alive := by
    rw [resources]
    exact sound.alive
  spans := by
    rw [contexts, spans]
    exact sound.spans

theorem newSpan (sound : m.Sound) : m.newSpan.2.Sound where
  owners := sound.owners
  values := sound.values
  alive := sound.alive
  spans := fun i c held => by
    have made := sound.spans i c held
    simp only [Monitor.newSpan, Array.size_push]
    omega

theorem newResource (sound : m.Sound) : m.newResource.2.Sound where
  owners := fun k slot mem => Nat.lt_succ_of_lt (sound.owners k slot mem)
  values := sound.values
  alive := by
    intro r mem
    rcases List.mem_cons.mp mem with rfl | mem
    · exact Nat.lt_succ_self _
    · exact Nat.lt_succ_of_lt (sound.alive r mem)
  spans := sound.spans

theorem dropResource (sound : m.Sound) (r : Resource) : (m.dropResource r).Sound where
  owners := sound.owners
  values := sound.values
  alive := fun other mem => sound.alive other (List.mem_filter.mp mem).1
  spans := sound.spans

theorem newContext (sound : m.Sound) {c : Context} (made : c.span < m.spans.size) :
    (m.newContext c).2.Sound where
  owners := sound.owners
  values := fun k slot mem => by
    have held := sound.values k slot mem
    simp only [Monitor.newContext, Array.size_push]
    omega
  alive := sound.alive
  spans := by
    intro i c' held
    simp only [Monitor.newContext, Array.getElem?_push] at held
    by_cases last : i = m.contexts.size
    · rw [if_pos last] at held
      cases held
      exact made
    · rw [if_neg last] at held
      exact sound.spans i c' held

theorem attach (sound : m.Sound) (store : StoreKey) {r : Resource} {i : Nat}
    (given : r.id < m.resources.born) (held : i < m.contexts.size) : (m.attach store r i).Sound where
  owners := by
    intro k slot mem
    rw [Monitor.attach, Registry.store_attach] at mem
    split at mem
    · rcases Store.mem_attach.mp mem with rfl | ⟨mem, _⟩
      · exact given
      · exact sound.owners k slot mem
    · exact sound.owners k slot mem
  values := by
    intro k slot mem
    rw [Monitor.attach, Registry.store_attach] at mem
    split at mem
    · rcases Store.mem_attach.mp mem with rfl | ⟨mem, _⟩
      · exact held
      · exact sound.values k slot mem
    · exact sound.values k slot mem
  alive := sound.alive
  spans := sound.spans

/-- Taking entries out of the registry keeps a monitor sound. -/
theorem shrink (sound : m.Sound) {registry : Registry Nat}
    (sub : ∀ k, ∀ slot ∈ (registry.store k).slots, slot ∈ (m.registry.store k).slots) :
    ({ m with registry := registry } : Monitor).Sound where
  owners := fun k slot mem => sound.owners k slot (sub k slot mem)
  values := fun k slot mem => sound.values k slot (sub k slot mem)
  alive := sound.alive
  spans := sound.spans

theorem sweep (sound : m.Sound) : m.sweep.Sound := by
  apply sound.shrink
  intro k slot mem
  rw [Registry.store_sweep] at mem
  exact (List.mem_filter.mp mem).1

end Sound
end Monitor
end Turnstile.Capture
