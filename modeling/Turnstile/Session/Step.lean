import Turnstile.Session.Basic
/-!
# Steps of a session

What can be done in a session, as data: each step names what it works on, and is answered by a report.
-/
namespace Turnstile.Session

open Policy Capture Turnstile.Stream

/-- A stream that is to be opened. -/
inductive Opening
  | handle
  | reader (script : Script)
  | lines (script : Script)
  | writer (sink : Sink)
  | text (limit : Option Nat)

/-- Something done with a stream. -/
inductive Use
  | read (n : Nat)
  | readToEnd
  /-- Reads a line onto the text kept so far, or onto an empty one. -/
  | readLine (clear : Bool)
  | write (bytes : Bytes)
  | writeAll (bytes : Bytes)
  | flush
  | writeText (s : String)
  /-- Several texts in pieces, each up to a piece that fails. -/
  | writePieces (texts : List (List String))
  | finish
  /-- What the sink holds. -/
  | content
  /-- Takes the outermost layer off, and reads or writes on without it. -/
  | unwrap

/-- Something done with the contexts attached to a resource. -/
inductive Attachment
  | request (headers : Headers) (store : Option StoreKey) (save : Option String) (span : String)
  | response (contentType contentLength : Option String) (store : Option StoreKey) (save : Option String)
      (span : String)
  | context (name : String) (store : Option StoreKey)
  | get (store : StoreKey)
  | detach (store : StoreKey)
  | detachAll
  /-- Remembers the resource under a name. -/
  | remember (key : String)

/-- Something done with a context. -/
inductive ContextUse
  | create (span key : String) (buffer : BodyBuffer) (charset : Charset) (stage : Capture.Stage)
  | show
  | writeBytes (bytes : Bytes)
  | writeText (s : String)
  | reset
  | setAttribute (key value : String)
  | describe
  | finalize (key : Option String)

/-- Something done with a form. -/
inductive FormUse
  | create (span key : String) (headers : Headers)
  | capture (params : Table String)
  | describe

/-- A step of a session. -/
inductive Step
  | start (id : String) (direction : Option Direction) (what : Opening)
  /-- Puts an instrumented layer around a stream, perhaps over one that goes byte by byte. -/
  | wrap (id source : String) (single : Bool) (direction : Option Direction)
  | use (id : String) (what : Use)
  | drop (id : String)
  | attach (id : String) (what : Attachment)
  | lookUp (key : String) (store : StoreKey)
  | forget (key : String)
  | storeSize (store : StoreKey)
  | sweep
  | onContext (name : String) (what : ContextUse)
  | onForm (id : String) (what : FormUse)
  | requestHeaders (span : String) (headers : Headers)
  | judgeHeaders (span : String) (headers : Headers)
  | responseHeaders (span : String) (headers : Headers)
  | dump (span : String)
  | listen (id span : String) (requests : List String)
      (responses : List (String × Option StoreKey))
  | copyListener (id source : String)
  | signal (id : String) (what : Signal)
  | hold (c : StreamKind)
  | release
  | depth (c : StreamKind)
  /-- Puts a snapshot in force, if there is one. -/
  | publish (snapshot : Option Snapshot)
  | settings
  | chain
  | describeRegistry

/-- What a step is answered. -/
inductive Report
  | nothing
  /-- The step names something that is not there, or that cannot do this. -/
  | unknown
  | number (n : Nat)
  | truth (b : Bool)
  | truths (bs : List Bool)
  | text (s : String)
  | texts (ss : List String)
  | bytes (bs : Bytes)
  | store (k : StoreKey)
  | context (c : Option Context)
  | notAttached
  /-- The memory for a buffer is refused. -/
  | refused
  | finish (f : Option Finish)
  | verdict (v : Verdict)
  | fault (f : Fault)
  | arrived (result : Except Fault Unit) (bytes : Bytes)
  | line (result : Except Fault Nat) (text : String)
  | written (result : Except Fault Unit) (content : Bytes)
  | found (alive : Bool) (c : Option Context)
  | removed (alive : Bool) (count : Nat)
  | storeSize (n : Nat) (isEmpty registryIsEmpty : Bool)
  | form (f : Form)
  | captured (result : Except Verdict Finish) (captured : Bool)
  | completion (c : Completion) (handled : Bool)
  | span (s : Span)
  | settings (s : Settings)
  | call (outermost : Bool) (depth : Nat)

/-- The report of a result. -/
def Report.ofResult {α : Type} (report : α → Report) : Except Fault α → Report
  | .ok x => report x
  | .error f => .fault f

/-- The report of a result that a verdict may block. -/
def Report.ofVerdict {α : Type} (report : α → Report) : Except Verdict α → Report
  | .ok x => report x
  | .error v => .fault (.blocked v)

/-! ## Streams -/

/-- Makes a channel with a layer of its own and gives it a name. -/
def layer (id : String) (store : StoreKey) (make : Probe → Channel) : Action Report := do
  let p ← withMonitor fun m => Probe.create m store
  openChannel id (make p)
  return .store p.store

/-- Opens a stream. Only one of bytes can be on the other side of the exchange than is usual. -/
def openStream (id : String) (direction : Option Direction) : Opening → Action Report
  | .handle => do
    openChannel id (.handle (← withMonitor Monitor.newResource))
    return .nothing
  | .reader script =>
    layer id ⟨.byteInput, direction.getD .request⟩ fun p => .reader (.probed p (.script script))
  | .lines script => layer id ⟨.charInput, .request⟩ fun p => .lines ⟨p, ⟨[], script⟩⟩ ""
  | .writer sink =>
    layer id ⟨.byteOutput, direction.getD .response⟩ fun p => .writer (.probed p (.sink sink))
  | .text limit => layer id ⟨.charOutput, .response⟩ fun p => .text ⟨[p], ⟨limit, ""⟩⟩

def wrap (id source : String) (single : Bool) (direction : Option Direction) : Action Report := do
  match ← takeChannel source with
  | none => return .unknown
  | some c =>
    let side := direction.getD ((c.store?.map StoreKey.direction).getD .request)
    match c with
    | .reader r =>
      layer id ⟨.byteInput, side⟩ fun p =>
        if single then .reader (.probed p (.single r)) else .reader (.probed p r)
    | .writer w =>
      layer id ⟨.byteOutput, side⟩ fun p =>
        if single then .writer (.probed p (.single w)) else .writer (.probed p w)
    | .text w => layer id ⟨.charOutput, .response⟩ fun p => .text { w with layers := p :: w.layers }
    | _ => return .unknown

/-- Takes the outermost layer off a stream. Only text goes on under the stream's name. -/
def unwrap (id : String) : Action Report := do
  match ← takeChannel id with
  | none | some (.handle _) => return .unknown
  | some c =>
    dropAll (c.resources.take 1)
    let report ← match c with
      | .reader r => withMonitor fun m =>
        let (result, bytes, _, m) := r.inner.readToEnd m
        (.arrived result bytes, m)
      | .lines r _ => withMonitor fun m =>
        let (result, bytes, _) := r.source.readToEnd m
        (.arrived result bytes, m)
      | .writer w => withMonitor fun m =>
        let (result, w, m) := w.inner.writeAll [33] m
        (.written result w.bottom.taken.toList, m)
      | .text w =>
        match w.layers.tail with
        | [] => return .text w.sink.text
        | p :: rest =>
          setChannel id (.text { w with layers := p :: rest })
          return .store p.store
      | .handle _ => pure .unknown
    dropAll (c.resources.drop 1)
    return report

def useReader {depth : Nat} (r : Reader (depth + 1)) (m : Monitor) : Use → Report × Channel × Monitor
  | .read n =>
    let (result, r, m) := r.read n m
    (.ofResult .bytes result, .reader r, m)
  | .readToEnd =>
    let (result, bytes, r, m) := r.readToEnd m
    (.arrived result bytes, .reader r, m)
  | _ => (.unknown, .reader r, m)

def useWriter {depth : Nat} (w : Writer (depth + 1)) (m : Monitor) : Use → Report × Channel × Monitor
  | .write bytes =>
    let (result, w, m) := w.write bytes m
    (.ofResult .number result, .writer w, m)
  | .writeAll bytes =>
    let (result, w, m) := w.writeAll bytes m
    (.ofResult (fun _ => .nothing) result, .writer w, m)
  | .flush =>
    let (result, w) := w.flush
    (.ofResult (fun _ => .nothing) result, .writer w, m)
  | .finish =>
    let (result, w, m) := w.finish m
    (.ofResult .finish result, .writer w, m)
  | .content => (.bytes w.bottom.taken.toList, .writer w, m)
  | _ => (.unknown, .writer w, m)

def writeTexts (w : TextWriter) (m : Monitor) : List (List String) → List Bool × TextWriter × Monitor
  | [] => ([], w, m)
  | pieces :: rest =>
    let (ok, w, m) := w.writePieces m pieces
    let (oks, w, m) := writeTexts w m rest
    (ok :: oks, w, m)

/-- Does something with a writer of text. -/
def useText (w : TextWriter) (m : Monitor) : Use → Report × Channel × Monitor
  | .writeText s =>
    let (ok, w, m) := w.write s m
    (.truth ok, .text w, m)
  | .writePieces texts =>
    let (oks, w, m) := writeTexts w m texts
    (.truths oks, .text w, m)
  | .finish =>
    let (result, m) := w.finish m
    (.ofVerdict .finish result, .text w, m)
  | .content => (.text w.sink.text, .text w, m)
  | _ => (.unknown, .text w, m)

/-- Does something with a reader of lines. -/
def useLines (r : LineReader) (line : String) (m : Monitor) : Use → Report × Channel × Monitor
  | .readLine clear =>
    let (result, line, r, m) := r.readLine (if clear then "" else line) m
    (.line result line, .lines r line, m)
  | _ => (.unknown, .lines r line, m)

def use (id : String) (what : Use) : Action Report := do
  match what, (← get).channels.get? id with
  | .unwrap, _ => unwrap id
  | _, none => return .unknown
  | _, some c =>
    let (report, c) ← withMonitor fun m =>
      let (report, c, m) := match c with
        | .reader r => useReader r m what
        | .lines r line => useLines r line m what
        | .writer w => useWriter w m what
        | .text w => useText w m what
        | .handle r => (.unknown, .handle r, m)
      ((report, c), m)
    setChannel id c
    return report

/-- Drops a stream, and tells whether it was there. -/
def drop (id : String) : Action Report := do
  match ← takeChannel id with
  | none => return .truth false
  | some c =>
    dropAll c.resources
    return .truth true

/-! ## Contexts -/

/-- Reports what came of attaching a context, and names it. -/
def attached (came : Attached) (save : Option String) : Action Report := do
  match came with
  | .nothing => return .notAttached
  | .refused => return .refused
  | .context i =>
    if let some name := save then nameContext name i
    return .context (← context (some i))

/-- Does something with the contexts attached to a resource. -/
def attachTo (c : Channel) (r : Resource) : Attachment → Action Report
  | .request headers store save name => do
    let i ← span name
    let store := store.or c.store? |>.getD ⟨.byteInput, .request⟩
    attached (← withMonitor fun m => m.attachRequest store r i headers) save
  | .response contentType contentLength store save name => do
    let i ← span name
    let store := store.or c.store? |>.getD ⟨.byteOutput, .response⟩
    attached (← withMonitor fun m => m.attachResponse store r i contentType contentLength) save
  | .context name store => do
    let store := store.or c.store? |>.getD ⟨.byteInput, .request⟩
    match (← get).contexts.get? name with
    | none => return .unknown
    | some i =>
      changeMonitor fun m => m.attach store r i
      return .nothing
  | .get store => do return .context (← context ((← get).monitor.attached? store r))
  | .detach store => do
    let found ← context ((← get).monitor.attached? store r)
    changeMonitor fun m => m.detach store r
    return .context found
  | .detachAll => do
    let count := (← get).monitor.registry.holders r
    changeMonitor fun m => m.detachAll r
    return .number count
  | .remember key => do
    modify fun s => { s with keys := s.keys.insert key r }
    return .nothing

/-- Does something with the contexts attached to a stream's outermost layer. -/
def attach (id : String) (what : Attachment) : Action Report := do
  match (← get).channels.get? id with
  | none => return .unknown
  | some c =>
    match c.resources with
    | [] => return .unknown
    | r :: _ => attachTo c r what

/-- Looks a remembered resource up in a store. -/
def lookUp (key : String) (store : StoreKey) : Action Report := do
  match (← get).keys.get? key with
  | none => return .unknown
  | some r =>
    let found ← context (← withMonitor fun m => m.lookUp store r)
    return .found ((← get).monitor.resources.isAlive r) found

/-- Removes a remembered resource from every store. -/
def forget (key : String) : Action Report := do
  match (← get).keys.get? key with
  | none => return .unknown
  | some r =>
    let m := (← get).monitor
    changeMonitor fun m => m.detachAll r
    return .removed (m.resources.isAlive r) (m.registry.holders r)

/-- Removes every dead entry, and counts them. -/
def sweep : Action Report := do
  let before := (← get).monitor.registry.size
  changeMonitor Monitor.sweep
  return .number (before - (← get).monitor.registry.size)

def changeContext (name : String) (f : Context → Context) : Action Report := do
  let i := (← get).contexts.get? name
  if let some i := i then changeMonitor fun m => m.updateContext i f
  return .context (← context i)

def onContext (name : String) : ContextUse → Action Report
  | .create spanName key buffer charset stage => do
    let c : Context := ⟨← span spanName, key, buffer, charset, stage, false⟩
    nameContext name (← withMonitor fun m => m.newContext c)
    return .context (some c)
  | .show => changeContext name id
  | .writeBytes bytes => changeContext name (·.writeBytes bytes)
  | .writeText s => changeContext name (·.writeText s)
  | .reset => changeContext name Context.reset
  | .setAttribute key value => do
    match ← context ((← get).contexts.get? name) with
    | none => return .unknown
    | some c =>
      changeMonitor fun m => m.write c.span [(key, value)]
      return .nothing
  | .describe => do
    match ← context ((← get).contexts.get? name) with
    | none => return .unknown
    | some c => return .text c.debugText
  | .finalize key => do
    match (← get).contexts.get? name with
    | none => return .unknown
    | some i => return .ofVerdict (.finish ∘ some) (← withMonitor fun m => m.captureContext i key)

def onForm (id : String) (what : FormUse) : Action Report := do
  let set (f : Form) : Action Unit := modify fun s => { s with forms := s.forms.insert id f }
  match what, (← get).forms.get? id with
  | .create spanName key headers, _ =>
    let f : Form := ⟨← span spanName, key, headers, false⟩
    set f
    return .form f
  | _, none => return .unknown
  | .capture params, some f =>
    let (result, f) ← withMonitor fun m =>
      let (result, f, m) := m.captureForm f params
      ((result, f), m)
    set f
    return .captured result f.captured
  | .describe, some f => return .text f.debugText

/-! ## Requests -/

/-- Builds a listener for streams by their names. -/
def listen (id spanName : String) (requests : List String)
    (responses : List (String × Option StoreKey)) : Action Report := do
  let i ← span spanName
  let channels := (← get).channels
  let tracked := requests.filterMap fun name => (channels.get? name).bind (·.resources.head?)
  let answers := responses.filterMap fun (name, store) => do
    let c ← channels.get? name
    let r ← c.resources.head?
    some (store.or c.store? |>.getD ⟨.byteOutput, .response⟩, r)
  let l ← withMonitor fun m => m.listen i tracked answers
  modify fun s => { s with listeners := s.listeners.insert id l }
  return .text ((← get).monitor.listenerText l)

/-- Lets a listener go by another name too. -/
def copyListener (id source : String) : Action Report := do
  match (← get).listeners.get? source with
  | none => return .unknown
  | some l =>
    modify fun s => { s with listeners := s.listeners.insert id l }
    return .text ((← get).monitor.listenerText l)

def signal (id : String) (what : Signal) : Action Report := do
  match (← get).listeners.get? id with
  | none => return .unknown
  | some l =>
    let c ← withMonitor fun m => m.signal l what
    return .completion c ((← get).monitor.isHandled l)

/-- Ends the latest call. -/
def release : Action Report := do
  match (← get).calls with
  | [] => return .unknown
  | g :: rest =>
    changeMonitor fun m => m.leave g
    modify fun s => { s with calls := rest }
    return .number ((← get).monitor.depth.depth g.kind)

def step : Step → Action Report
  | .start id direction what => openStream id direction what
  | .wrap id source single direction => wrap id source single direction
  | .use id what => use id what
  | .drop id => drop id
  | .attach id what => attach id what
  | .lookUp key store => lookUp key store
  | .forget key => forget key
  | .storeSize store => do
    let registry := (← get).monitor.registry
    let s := registry.store store
    return .storeSize s.size s.isEmpty registry.isEmpty
  | .sweep => sweep
  | .onContext name what => onContext name what
  | .onForm id what => onForm id what
  | .requestHeaders name headers => do
    let i ← span name
    return .ofVerdict .verdict (← withMonitor fun m => m.requestHeaders i headers)
  | .judgeHeaders name headers => do
    let i ← span name
    return .ofVerdict .verdict (← withMonitor fun m => m.judgeHeaders i headers)
  | .responseHeaders name headers => do
    let i ← span name
    changeMonitor fun m => m.responseHeaders i headers
    return .nothing
  | .dump name => do
    let i ← span name
    return .span ((← get).monitor.span i)
  | .listen id spanName requests responses => listen id spanName requests responses
  | .copyListener id source => copyListener id source
  | .signal id what => signal id what
  | .hold c => do
    let g ← withMonitor fun m => m.enter c
    modify fun s => { s with calls := g :: s.calls }
    return .call g.outermost ((← get).monitor.depth.depth c)
  | .release => release
  | .depth c => do return .number ((← get).monitor.depth.depth c)
  | .publish snapshot => do
    if let some snapshot := snapshot then changeMonitor fun m => m.withSnapshot snapshot
    return .nothing
  | .settings => do return .settings (← get).monitor.settings
  | .chain => do return .texts (← get).monitor.chain.names
  | .describeRegistry => do return .text (← get).monitor.registry.debugText

end Turnstile.Session
