import Turnstile.Proofs.Capture.Cycle
import Turnstile.Proofs.Stream.Layer
import Turnstile.Stream.Reader
/-!
# What is delivered is recorded

A layer over any stream whatever, read with buffers of any sizes: what its context is shown is what the
stream delivered, and the first read at the end of the stream, and nothing else, has it recorded.
-/
namespace Turnstile.Stream

open Capture

/-- Any stream below a layer. -/
structure Source (σ : Type) where
  read : σ → Nat → Except Fault Bytes × σ
  /-- No more comes than was asked for. -/
  fits : ∀ s n bytes, (read s n).1 = .ok bytes → bytes.length ≤ n

/-- One read: how much was asked for and what came. -/
structure Reading where
  asked : Nat
  came : Except Fault Bytes
deriving DecidableEq

namespace Source

variable {σ : Type} (src : Source σ)

/-- One read, which leaves the monitor alone. -/
def lift (s : σ) (n : Nat) (m : Monitor) : Answer Bytes σ :=
  let (came, s) := src.read s n
  (came, s, m)

/-- The reads of these sizes, one after the other. -/
def readings (s : σ) : List Nat → List Reading
  | [] => []
  | n :: sizes =>
    let (came, s) := src.read s n
    ⟨n, came⟩ :: readings s sizes

/-- The stream after reads of these sizes. -/
def after (s : σ) (sizes : List Nat) : σ := sizes.foldl (fun s n => (src.read s n).2) s

theorem readings_append (s : σ) (sizes : List Nat) (n : Nat) :
    src.readings s (sizes ++ [n]) =
      src.readings s sizes ++ [⟨n, (src.read (src.after s sizes) n).1⟩] := by
  induction sizes generalizing s with
  | nil => rfl
  | cons k sizes ih => exact congrArg (Reading.mk k (src.read s k).1 :: ·) (ih (src.read s k).2)

end Source

/-- A script as a stream below. -/
def Script.source : Source Script where
  read := fun s n => s.read n
  fits := by
    intro s n bytes came
    cases s with
    | nil =>
      cases came
      exact Nat.zero_le n
    | cons step rest =>
      cases step with
      | chunk data =>
        rw [Script.read] at came
        split at came
        · cases came
          exact Nat.zero_le n
        · cases came
          rw [List.length_take]
          exact Nat.min_le_left n data.length
      | fault f =>
        rw [Script.read] at came
        split at came
        · cases came
          exact Nat.zero_le n
        · cases came

/-! ## Readings -/

/-- What is done with a context that is told of a call. -/
def Notice.steps : Notice → List ContextStep
  | .nothing => []
  | .bytes data => [.writeBytes data]
  | .text s => [.writeText s]
  | .ended => [.capture none]

theorem Notice.no_reset (notice : Notice) : .reset ∉ notice.steps := by
  cases notice <;> simp [steps]

theorem Notice.ofRead_eq_ended_iff {n : Nat} {bytes : Bytes} :
    Notice.ofRead n bytes = .ended ↔ n ≠ 0 ∧ bytes = [] := by
  cases bytes with
  | nil => by_cases none : n = 0 <;> simp [Notice.ofRead, none]
  | cons b bs => simp [Notice.ofRead]

namespace Reading

/-- The stream has come to its end: nothing came although there was room. -/
def IsEnd (r : Reading) : Prop := r.asked ≠ 0 ∧ r.came = .ok []

/-- The bytes that came. -/
def bytes (r : Reading) : Bytes :=
  match r.came with
  | .ok bytes => bytes
  | .error _ => []

/-- What the context of the outermost layer is told. -/
def notice (r : Reading) : Notice := .heard True (.ofRead r.asked) r.came

/-- What is done with that context. -/
def steps (r : Reading) : List ContextStep := r.notice.steps

/-- All that came, in order. -/
def delivered (readings : List Reading) : Bytes := readings.flatMap bytes

theorem notice_eq_ended_iff {r : Reading} : r.notice = .ended ↔ r.IsEnd := by
  rcases r with ⟨asked, f | bytes⟩
  · simp [notice, IsEnd, Notice.heard]
  · simp [notice, IsEnd, Notice.heard, Notice.ofRead_eq_ended_iff]

theorem steps_of_isEnd {r : Reading} (ends : r.IsEnd) : r.steps = [.capture none] := by
  rw [steps, notice_eq_ended_iff.mpr ends, Notice.steps]

/-- Short of the end, what came is shown and nothing else is done. -/
theorem steps_of_not_isEnd {r : Reading} (goesOn : ¬ r.IsEnd) :
    r.steps = [] ∧ r.bytes = [] ∨ r.steps = [.writeBytes r.bytes] := by
  rcases r with ⟨asked, f | bytes⟩
  · exact .inl ⟨rfl, rfl⟩
  · cases bytes with
    | nil =>
      have none : asked = 0 := by
        by_contra some
        exact goesOn ⟨some, rfl⟩
      exact .inl ⟨by simp [steps, notice, Notice.heard, Notice.ofRead, none, Notice.steps], rfl⟩
    | cons b bs =>
      exact .inr (by simp [steps, notice, Notice.heard, Notice.ofRead, Notice.steps, Reading.bytes])

theorem no_reset (readings : List Reading) : .reset ∉ readings.flatMap steps := by
  intro mem
  obtain ⟨r, _, mem⟩ := List.mem_flatMap.mp mem
  exact r.notice.no_reset mem

/-- A read that fails, or that has no room, is not told. -/
theorem steps_idle {σ : Type} (src : Source σ) (s : σ) {n : Nat}
    (idle : n = 0 ∨ ∃ f, (src.read s n).1 = .error f) :
    (Reading.mk n (src.read s n).1).steps = [] := by
  cases came : (src.read s n).1 with
  | error f => rfl
  | ok data =>
    obtain rfl | ⟨f, failed⟩ := idle
    · have none : data = [] := List.eq_nil_of_length_eq_zero (Nat.le_zero.mp (src.fits s 0 data came))
      rw [none]
      rfl
    · rw [came] at failed
      cases failed

section

variable {readings : List Reading} (goesOn : ∀ r ∈ readings, ¬ r.IsEnd)
include goesOn

theorem no_capture : ∀ step ∈ readings.flatMap steps, ¬ step.isCapture := by
  intro step mem
  obtain ⟨r, listed, mem⟩ := List.mem_flatMap.mp mem
  rcases steps_of_not_isEnd (goesOn r listed) with ⟨idle, _⟩ | shown
  · simp [idle] at mem
  · rw [shown, List.mem_singleton] at mem
    simp [mem, ContextStep.isCapture]

theorem shown_delivered :
    (readings.flatMap steps).flatMap ContextStep.asBytes = delivered readings := by
  induction readings with
  | nil => rfl
  | cons r readings ih =>
    have rest := ih fun q mem => goesOn q (List.mem_cons_of_mem r mem)
    have this : r.steps.flatMap ContextStep.asBytes = r.bytes := by
      rcases steps_of_not_isEnd (goesOn r List.mem_cons_self) with ⟨idle, none⟩ | shown
      · rw [idle, none]
        rfl
      · simp [shown, ContextStep.asBytes]
    rw [List.flatMap_cons, List.flatMap_append, this, rest, delivered, delivered, List.flatMap_cons]

end
end Reading
end Turnstile.Stream

namespace Turnstile.Capture

open Turnstile.Stream

/-! ## What readings leave behind -/

/-- How a monitor `after` differs from `m` once a context whose buffer has room for `capacity` bytes has
been told of readings: up to the end nothing is recorded, and at it the text of what was delivered, once
and for all. -/
structure Monitor.BodyRecorded (m : Monitor) (c : Context) (capacity : Nat) (readings : List Reading)
    (after : Monitor) : Prop where
  unended : (∀ r ∈ readings, ¬ r.IsEnd) → after.spans = m.spans ∧ after.judged = m.judged
  ended : ∀ earlier last later, readings = earlier ++ last :: later →
    (∀ r ∈ earlier, ¬ r.IsEnd) → last.IsEnd →
      let text := c.charset.decode ((Reading.delivered earlier).take capacity)
      (∀ j, after.span j = if c.span = j
        then (m.span j).setAll (c.stage.writes m.chain m.moment c.key text) else m.span j) ∧
      after.judged = m.judged ++ (c.stage.request? text).toArray

namespace Monitor

variable {m : Monitor} {i : Nat} {c : Context}

theorem not_isOpen_readings (c : Context) {readings : List Reading} {r : Reading}
    (listed : r ∈ readings) (ends : r.IsEnd) : ¬ c.isOpen (readings.flatMap Reading.steps) := by
  have plain := Reading.no_reset readings
  have some : (readings.flatMap Reading.steps).any ContextStep.isCapture = true := by
    rw [List.any_eq_true]
    refine ⟨.capture none, List.mem_flatMap.mpr ⟨r, listed, ?_⟩, rfl⟩
    rw [Reading.steps_of_isEnd ends, List.mem_singleton]
  simp [Context.isOpen, ContextStep.cycle_plain plain, some]

/-- After an end nothing that comes changes anything. -/
theorem contextRun_ended (held : m.contexts[i]? = some c) {readings : List Reading} {r : Reading}
    (listed : r ∈ readings) (ends : r.IsEnd) (later : List Reading) :
    m.contextRun i ((readings ++ later).flatMap Reading.steps) =
      m.contextRun i (readings.flatMap Reading.steps) := by
  rw [List.flatMap_append]
  exact contextRun_closed held (not_isOpen_readings c listed ends) (Reading.no_reset later)

/-- Being told of readings records what they delivered. -/
theorem contextRun_recorded (held : m.contexts[i]? = some c) (made : c.span < m.spans.size)
    (fresh : c.captured = false) {capacity : Nat}
    (empty : c.buffer = .bytes (.empty capacity c.charset)) (readings : List Reading) :
    m.BodyRecorded c capacity readings (m.contextRun i (readings.flatMap Reading.steps)) where
  unended := fun goesOn => contextRun_silent m i (Reading.no_capture goesOn)
  ended := by
    rintro earlier last later rfl goesOn ends text
    have written : c.buffer.textAfter c.charset (earlier.flatMap Reading.steps) = text := by
      rw [empty]
      show c.charset.decode (([] ++ _).take capacity) = _
      rw [List.nil_append, Reading.shown_delivered goesOn]
    have recorded := contextRun_first held made fresh (Reading.no_reset earlier) (Reading.no_reset later)
      (Reading.no_capture goesOn)
    rw [List.flatMap_append, List.flatMap_cons, Reading.steps_of_isEnd ends]
    rw [written] at recorded
    exact ⟨recorded.span, recorded.judged⟩

end Monitor

namespace Probe

variable {p : Probe} {m : Monitor} {i : Nat}

/-- What a notice does to the attached context. -/
theorem notify_attached (here : m.attached? p.store p.resource = some i) (notice : Notice) :
    (p.notify m notice).2 = m.contextRun i notice.steps := by
  cases notice with
  | nothing => rfl
  | bytes data =>
    rw [notify, record, here]
    rfl
  | text s =>
    rw [notify, record, here]
    rfl
  | ended =>
    simp only [notify, finalize, here]
    rfl

/-! ## Reads through a layer -/

section

variable {σ : Type} (src : Source σ) (s : σ)

/-- What comes of an outermost read, and what the context is told of it. -/
theorem read_source (p : Probe) (idle : m.depth.depth .byteInput = 0) (n : Nat) :
    let r : Reading := ⟨n, (src.read s n).1⟩
    p.read src.lift s n m =
      (((p.notify m r.notice).1.mapError .blocked).bind fun _ => r.came, (src.read s n).2,
        (p.notify m r.notice).2) := by
  intro r
  have came : src.lift s n (m.enter .byteInput).2 =
      (r.came, (src.read s n).2, (m.enter .byteInput).2) := rfl
  have whole := p.read_eq came
  simp only [idle] at whole
  exact whole

/-- Short of the end, the caller gets what the stream gave. -/
theorem read_answer (p : Probe) (idle : m.depth.depth .byteInput = 0) {n : Nat}
    (goesOn : ¬ (Reading.mk n (src.read s n).1).IsEnd) :
    (p.read src.lift s n m).1 = (src.read s n).1 := by
  rw [read_source src s p idle, p.notify_fst m (mt Reading.notice_eq_ended_iff.mp goesOn)]
  rfl

/-- An outermost read leaves the stream as the read below leaves it, and tells the context what came. -/
theorem read_attached (here : m.attached? p.store p.resource = some i)
    (idle : m.depth.depth .byteInput = 0) (n : Nat) :
    (p.read src.lift s n m).2 =
      ((src.read s n).2, m.contextRun i (Reading.mk n (src.read s n).1).steps) := by
  rw [read_source src s p idle, notify_attached here]
  rfl

/-- Reads of these sizes through a layer, one after the other: the stream and the monitor after them. -/
def reads (p : Probe) (src : Source σ) (s : σ) (m : Monitor) (sizes : List Nat) : σ × Monitor :=
  sizes.foldl (fun t n => (p.read src.lift t.1 n t.2).2) (s, m)

theorem reads_append (p : Probe) (m : Monitor) (sizes : List Nat) (n : Nat) :
    p.reads src s m (sizes ++ [n]) =
      (p.read src.lift (p.reads src s m sizes).1 n (p.reads src s m sizes).2).2 := by
  rw [reads, List.foldl_append, ← reads]
  rfl

theorem reads_attached (here : m.attached? p.store p.resource = some i)
    (idle : m.depth.depth .byteInput = 0) (sizes : List Nat) :
    p.reads src s m sizes =
      (src.after s sizes, m.contextRun i ((src.readings s sizes).flatMap Reading.steps)) := by
  induction sizes generalizing s m with
  | nil => rfl
  | cons n sizes ih =>
    have rest := ih (src.read s n).2
      ((m.attached?_contextRun i (Reading.mk n (src.read s n).1).steps _ _).trans here)
      (by rw [Monitor.contextRun_depth, idle])
    rw [reads, List.foldl_cons]
    simp only [read_attached src s here idle n]
    rw [← reads, rest, Source.readings, List.flatMap_cons, Monitor.contextRun_contextRun]
    rfl

/-- Through a layer over any stream, what the reads deliver before the first end of the stream is what
is recorded, once. A read that fails or has no room tells the context nothing, and neither does any read
after an end. -/
theorem reads_recorded (p : Probe) {m m₀ : Monitor} {i span : Nat} {headers : Headers}
    (ofBytes : p.store.kind = .byteInput) (idle : m.depth.depth .byteInput = 0)
    (made : span < m.spans.size)
    (attached : m.attachRequest p.store p.resource span headers = (.context i, m₀))
    (sizes : List Nat) (n : Nat) :
    let readings := src.readings s sizes
    let ran := p.reads src s m₀ sizes
    let last : Reading := ⟨n, (src.read ran.1 n).1⟩
    let next := p.read src.lift ran.1 n ran.2
    m.BodyRecorded (m.bodyContext span headers) m.settings.bodyLimit readings ran.2 ∧
    (ran.1 = src.after s sizes ∧ next.2.1 = src.after s (sizes ++ [n])) ∧
    (¬ last.IsEnd → next.1 = last.came) ∧
    (n = 0 ∨ (∃ f, last.came = .error f) → next.2.2 = ran.2) ∧
    ((∃ r ∈ readings, r.IsEnd) → next.2.2 = ran.2) := by
  intro readings ran last next
  have binary : p.store.kind.isText = false := by
    rw [ofBytes]
    rfl
  obtain ⟨rfl, rfl⟩ : i = m.contexts.size ∧
      m₀ = (m.attachNew p.store p.resource (m.bodyContext span headers)).2 := by
    cases granted : m.settings.refuses m.settings.bodies.request (headers.get? "content-type")
        (headers.get? "content-length") with
    | true =>
      rw [Monitor.attachRequest, Monitor.attachBody_refused granted] at attached
      cases attached
    | false =>
      rw [Monitor.attachRequest_eq binary granted] at attached
      split at attached
      · cases attached
        exact ⟨rfl, rfl⟩
      · cases attached
  have here := Monitor.attached?_attachNew m p.store p.resource (m.bodyContext span headers)
  have held := Monitor.contexts_attachNew m p.store p.resource (m.bodyContext span headers)
  have recorded := Monitor.contextRun_recorded held made rfl rfl readings
  have before : ran = _ := reads_attached src s here idle sizes
  have after : next.2 = _ := (reads_append src s p _ sizes n).symm.trans
    (reads_attached src s here idle (sizes ++ [n]))
  have calm : ran.2.depth.depth .byteInput = 0 := by
    rw [before, Monitor.contextRun_depth]
    exact idle
  have told : next.2.2 = ran.2.contextRun m.contexts.size last.steps := by
    rw [after, Source.readings_append, List.flatMap_append, List.flatMap_singleton,
      ← Monitor.contextRun_contextRun]
    simp only [last, before]
  refine ⟨?_, ⟨?_, ?_⟩, ?_, ?_, ?_⟩
  · rw [before]
    exact ⟨recorded.unended, recorded.ended⟩
  · rw [before]
  · rw [after]
  · exact read_answer src ran.1 p calm
  · intro failed
    rw [told, Reading.steps_idle src ran.1 failed]
    rfl
  · rintro ⟨r, listed, ends⟩
    have closed := Monitor.contextRun_ended held listed ends [last]
    rw [List.flatMap_append, List.flatMap_singleton, ← Monitor.contextRun_contextRun] at closed
    rw [told, before]
    exact closed

end

/-- Of five bytes around a fault and a first end, the first three before that end are recorded. -/
theorem reads_recorded_past_an_end :
    let m := (Monitor.start ⟨3, ["json"], .default, .default⟩ .empty ⟨none, 0⟩).newSpan.2
    let p : Probe := ⟨m.newResource.1, ⟨.byteInput, .request⟩⟩
    let headers := Headers.ofList [("content-type", "json")]
    let body : Script := [.chunk [97, 98], .fault (.failed .timedOut), .chunk [99, 100], .chunk [],
      .chunk [101]]
    ∃ m₀, m.attachRequest p.store p.resource 0 headers = (.context 0, m₀) ∧
      (p.reads Script.source body m₀ [0, 4, 4, 4, 4, 4]).2.span 0 = ⟨#[(requestBodyKey, "abc")]⟩ := by
  intro m p headers body
  have attached : m.attachRequest p.store p.resource 0 headers =
      (.context 0, (m.attachRequest p.store p.resource 0 headers).2) := by rfl
  have recorded :=
    (reads_recorded Script.source body p rfl rfl (by decide) attached [0, 4, 4, 4, 4, 4] 4).1
  obtain ⟨written, -⟩ := recorded.ended
    [⟨0, .ok []⟩, ⟨4, .ok [97, 98]⟩, ⟨4, .error (.failed .timedOut)⟩, ⟨4, .ok [99, 100]⟩] ⟨4, .ok []⟩
    [⟨4, .ok [101]⟩] rfl (by simp [Reading.IsEnd]) ⟨by decide, rfl⟩
  exact ⟨_, attached, written 0⟩

end Probe
end Turnstile.Capture
