import Turnstile.Capture.Context
import Turnstile.Capture.Settings
import Turnstile.Capture.Store
/-!
# The monitor

Everything that instrumented streams share: the settings, the chain and the policy in force, the
resources with the contexts attached to them, the spans, and the depth of calls. Spans and contexts
go by number; a context may be attached to several resources.
-/
namespace Turnstile.Capture

open Policy

/-- What comes of attaching a context for a body. -/
inductive Attached
  /-- Such a body is not captured. -/
  | nothing
  /-- The number of the new context. -/
  | context (i : Nat)
  /-- The memory for its buffer is refused. The call does not return then. -/
  | refused
deriving DecidableEq, Repr

/-- The state that instrumented streams share. -/
structure Monitor where
  settings : Settings
  chain : Chain
  moment : Moment
  resources : Resources
  /-- The number of the context attached to a resource in each store. -/
  registry : Registry Nat
  contexts : Array Context
  spans : Array Span
  depth : CallDepth
  /-- Whether the completion of each asynchronous request has been handled. -/
  handled : Array Bool
  /-- Every request the chain has judged, in order. -/
  judged : Array Request

namespace Monitor

def start (settings : Settings) (chain : Chain) (moment : Moment) : Monitor where
  settings := settings
  chain := chain
  moment := moment
  resources := .none
  registry := .empty
  contexts := #[]
  spans := #[]
  depth := .idle
  handled := #[]
  judged := #[]

def newSpan (m : Monitor) : Nat × Monitor :=
  (m.spans.size, { m with spans := m.spans.push .empty })

def newResource (m : Monitor) : Resource × Monitor :=
  let (r, resources) := m.resources.create
  (r, { m with resources := resources })

/-- The monitor after a resource's handle was dropped. -/
def dropResource (m : Monitor) (r : Resource) : Monitor :=
  { m with resources := m.resources.drop r }

/-- The monitor with another policy in force. -/
def withSnapshot (m : Monitor) (snapshot : Snapshot) : Monitor :=
  { m with moment := { m.moment with snapshot := some snapshot } }

/-- The monitor after writes to a span. -/
def write (m : Monitor) (span : Nat) (writes : List Write) : Monitor :=
  { m with spans := m.spans.modify span (·.setAll writes) }

def span (m : Monitor) (i : Nat) : Span := (m.spans[i]?).getD .empty

def perform {α : Type} (m : Monitor) (span : Nat) (e : Effect α) : Except Verdict α × Monitor :=
  let m := m.write span e.writes
  (e.result, { m with judged := m.judged ++ e.judged.toArray })

/-! ## Contexts -/

def newContext (m : Monitor) (c : Context) : Nat × Monitor :=
  (m.contexts.size, { m with contexts := m.contexts.push c })

/-- The monitor with one context changed. -/
def updateContext (m : Monitor) (i : Nat) (f : Context → Context) : Monitor :=
  { m with contexts := m.contexts.modify i f }

/-- Records a context's body, under its own key unless another is given. -/
def captureContext (m : Monitor) (i : Nat) (key : Option String) : Except Verdict Finish × Monitor :=
  match m.contexts[i]? with
  | none => (.ok .alreadyCaptured, m)
  | some c =>
    let (c', e) := c.captureAs m.chain m.moment (key.getD c.key)
    (m.updateContext i fun _ => c').perform c.span e

def captureForm (m : Monitor) (f : Form) (params : Table String) :
    Except Verdict Finish × Form × Monitor :=
  let (f', e) := f.capture m.chain m.moment params
  let (result, m) := m.perform f.span e
  (result, f', m)

/-! ## Headers -/

/-- Has the chain judge a request whose body has not been read. -/
def judgeHeaders (m : Monitor) (span : Nat) (headers : Headers) : Except Verdict Verdict × Monitor :=
  let request : Request := ⟨headers, none⟩
  m.perform span (verdictEffect request (m.chain.judge m.moment request))

/-- The monitor after the request headers were recorded, if they are captured. -/
def recordRequestHeaders (m : Monitor) (span : Nat) (headers : Headers) : Monitor :=
  if m.settings.headers.request then
    m.write span (headers.toList.map fun e => (requestHeaderKey e.1, e.2))
  else m

/-- Records the request headers and has the chain judge them. -/
def requestHeaders (m : Monitor) (span : Nat) (headers : Headers) :
    Except Verdict Verdict × Monitor :=
  (m.recordRequestHeaders span headers).judgeHeaders span headers

/-- The monitor after the response headers were recorded, if they are captured. -/
def responseHeaders (m : Monitor) (span : Nat) (headers : Headers) : Monitor :=
  if m.settings.headers.response then
    m.write span (headers.toList.map fun e => (responseHeaderKey e.1, e.2))
  else m

/-! ## Attaching -/

/-- The buffer for a kind of stream, with memory set aside for a body of the declared length. Where none is
declared it is set aside for the longest body that fits. -/
def newBuffer (m : Monitor) (c : StreamKind) (charset : Charset) (length : Option Nat) : Option BodyBuffer :=
  let capacity := m.settings.bodyLimit
  let room := initialRoom length capacity
  if c.isText then (CharBuffer.allocate capacity room).map .chars
  else (ByteBuffer.allocate capacity room charset).map .bytes

/-- The monitor with a new context attached to a resource. -/
def attachNew (m : Monitor) (store : StoreKey) (r : Resource) (c : Context) : Nat × Monitor :=
  let (i, m) := m.newContext c
  (i, { m with registry := m.registry.attach store r i })

/-- Attaches a context for a body to a resource, if such bodies are captured and the content type
passes the gate. -/
def attachBody (m : Monitor) (store : StoreKey) (r : Resource) (span : Nat) (wanted : Bool) (key : String)
    (stage : Stage) (contentType contentLength : Option String) : Attached × Monitor :=
  if wanted && m.settings.gate.admits contentType then
    let charset := Charset.ofContentType contentType
    match m.newBuffer store.kind charset (declaredLength contentLength) with
    | none => (.refused, m)
    | some buffer =>
      let (i, m) := m.attachNew store r {
        span := span, key := key, buffer := buffer, charset := charset, stage := stage, captured := false }
      (.context i, m)
  else (.nothing, m)

/-- Attaches a context for a request's body to a resource. -/
def attachRequest (m : Monitor) (store : StoreKey) (r : Resource) (span : Nat) (headers : Headers) :
    Attached × Monitor :=
  m.attachBody store r span m.settings.bodies.request requestBodyKey (.request headers)
    (headers.get? "content-type") (headers.get? "content-length")

/-- Attaches a context for a response's body to a resource. -/
def attachResponse (m : Monitor) (store : StoreKey) (r : Resource) (span : Nat)
    (contentType contentLength : Option String) : Attached × Monitor :=
  m.attachBody store r span m.settings.bodies.response responseBodyKey .response contentType contentLength

def attach (m : Monitor) (store : StoreKey) (r : Resource) (context : Nat) : Monitor :=
  { m with registry := m.registry.attach store r context }

/-- The context attached to a resource in a store. -/
def attached? (m : Monitor) (store : StoreKey) (r : Resource) : Option Nat :=
  (m.registry.store store).get? r

/-- The context found by a key in a store, and the monitor after the look-up. -/
def lookUp (m : Monitor) (store : StoreKey) (key : Resource) : Option Nat × Monitor :=
  let (found, s) := (m.registry.store store).getKey m.resources.isAlive key
  (found, { m with registry := m.registry.setStore store s })

def detach (m : Monitor) (store : StoreKey) (r : Resource) : Monitor :=
  { m with registry := m.registry.detach store r }

def detachAll (m : Monitor) (r : Resource) : Monitor :=
  { m with registry := m.registry.detachAll r }

def sweep (m : Monitor) : Monitor :=
  { m with registry := m.registry.sweep m.resources.isAlive }

/-! ## Calls -/

def enter (m : Monitor) (c : StreamKind) : Guard × Monitor :=
  let (g, depth) := Guard.enter m.depth c
  (g, { m with depth := depth })

def leave (m : Monitor) (g : Guard) : Monitor := { m with depth := g.drop m.depth }

end Monitor

/-- What an instrumented stream is known by: its resource and the store of its context. -/
structure Probe where
  resource : Resource
  store : StoreKey
deriving DecidableEq, Repr

namespace Probe

def create (m : Monitor) (store : StoreKey) : Probe × Monitor :=
  let (r, m) := m.newResource
  (⟨r, store⟩, m)

/-- Passes what streamed by to the attached context, if there is one. -/
def record (p : Probe) (m : Monitor) (f : Context → Context) : Monitor :=
  match m.attached? p.store p.resource with
  | some i => m.updateContext i f
  | none => m

/-- Records the attached context's body, if there is one. -/
def finalize (p : Probe) (m : Monitor) : Except Verdict (Option Finish) × Monitor :=
  match m.attached? p.store p.resource with
  | none => (.ok none, m)
  | some i =>
    let (result, m) := m.captureContext i none
    (result.map some, m)

end Probe
end Turnstile.Capture
