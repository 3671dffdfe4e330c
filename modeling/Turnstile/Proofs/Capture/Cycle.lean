import Mathlib.Data.List.Induction
import Turnstile.Proofs.Capture.Buffer
import Turnstile.Proofs.Capture.Monitor
/-!
# Capture cycles

What is done with a context falls into cycles, each from one reset to the next. In every cycle the first
capture, and nothing else, records the body: what was written in the cycle before it.
-/
namespace Turnstile.Capture

open Policy

/-- Something done with a context. -/
inductive ContextStep
  | writeBytes (bytes : Bytes)
  | writeText (s : String)
  /-- Records the body, under its own key unless another is given. -/
  | capture (key : Option String)
  | reset
deriving DecidableEq

namespace ContextStep

def isCapture : ContextStep → Bool
  | .capture _ => true
  | _ => false

/-- What a step brings to a buffer of bytes. -/
def asBytes : ContextStep → Bytes
  | .writeBytes bytes => bytes
  | .writeText s => Text.Utf8.encode s.toList
  | _ => []

/-- What a step brings to a buffer of characters. -/
def asChars (charset : Charset) : ContextStep → List Char
  | .writeBytes bytes => charset.decodeChars bytes
  | .writeText s => s.toList
  | _ => []

/-- The steps since the last reset. -/
def cycle (steps : List ContextStep) : List ContextStep :=
  (steps.reverse.takeWhile (· ≠ .reset)).reverse

end ContextStep

open ContextStep

/-- The text of a buffer after the steps of a cycle: of what it held and all they brought, as much as
there is room for. -/
def BodyBuffer.textAfter (b : BodyBuffer) (charset : Charset) (steps : List ContextStep) : String :=
  match b with
  | .bytes b => charset.decode ((b.bytes ++ steps.flatMap asBytes).take b.capacity)
  | .chars b => String.ofList ((b.text.toList ++ steps.flatMap (asChars charset)).take b.capacity)

namespace Context

/-- The context as it was when the cycle began in which the steps end. -/
def started (c : Context) (steps : List ContextStep) : Context :=
  if .reset ∈ steps then c.reset else c

/-- Whether the body has not been recorded yet in the cycle in which the steps end. -/
def isOpen (c : Context) (steps : List ContextStep) : Bool :=
  !(c.started steps).captured && !(cycle steps).any isCapture

/-- The text of what was written in the cycle in which the steps end. -/
def written (c : Context) (steps : List ContextStep) : String :=
  (c.started steps).buffer.textAfter c.charset (cycle steps)

end Context

namespace Monitor

/-- Does something with the context of a number. A capture is answered. -/
def contextStep (m : Monitor) (i : Nat) :
    ContextStep → Option (Except Verdict Finish) × Monitor
  | .writeBytes bytes => (none, m.updateContext i (·.writeBytes bytes))
  | .writeText s => (none, m.updateContext i (·.writeText s))
  | .capture key =>
    let (result, m) := m.captureContext i key
    (some result, m)
  | .reset => (none, m.updateContext i Context.reset)

/-- Does several things with the context of a number, in order. -/
def contextRun (m : Monitor) (i : Nat) (steps : List ContextStep) : Monitor :=
  steps.foldl (fun m step => (m.contextStep i step).2) m

end Monitor

/-! ## Cycles -/

namespace ContextStep

theorem cycle_append_reset (steps : List ContextStep) : cycle (steps ++ [.reset]) = [] := by
  simp [cycle]

theorem cycle_append {step : ContextStep} (ne : step ≠ .reset) (steps : List ContextStep) :
    cycle (steps ++ [step]) = cycle steps ++ [step] := by
  simp [cycle, ne]

/-- Without a reset all steps are one cycle. -/
theorem cycle_plain {steps : List ContextStep} (plain : .reset ∉ steps) : cycle steps = steps := by
  induction steps using List.reverseRecOn with
  | nil => rfl
  | append_singleton steps last ih =>
    have ne : last ≠ .reset := by
      rintro rfl
      simp at plain
    rw [cycle_append ne, ih fun mem => plain (List.mem_append_left _ mem)]

end ContextStep

namespace Context

theorem started_plain {steps : List ContextStep} (plain : .reset ∉ steps) (c : Context) :
    c.started steps = c := if_neg plain

theorem started_append_reset (c : Context) (steps : List ContextStep) :
    c.started (steps ++ [.reset]) = c.reset := by
  simp [started]

theorem started_append {step : ContextStep} (ne : step ≠ .reset) (c : Context)
    (steps : List ContextStep) : c.started (steps ++ [step]) = c.started steps := by
  simp [started, ne.symm]

theorem isOpen_append_reset (c : Context) (steps : List ContextStep) :
    c.isOpen (steps ++ [.reset]) = true := by
  rw [isOpen, started_append_reset, cycle_append_reset]
  rfl

theorem isOpen_append {step : ContextStep} (ne : step ≠ .reset) (c : Context)
    (steps : List ContextStep) :
    c.isOpen (steps ++ [step]) = (c.isOpen steps && !step.isCapture) := by
  rw [isOpen, started_append ne, cycle_append ne, isOpen]
  simp [Bool.and_assoc]

end Context

/-! ## What a cycle leaves in the buffer -/

namespace BodyBuffer

/-- The buffer after a step of a cycle. -/
def take (charset : Charset) (b : BodyBuffer) : ContextStep → BodyBuffer
  | .writeBytes data => b.writeBytes data charset
  | .writeText s => b.writeText s
  | _ => b

theorem take_bytes (charset : Charset) (b : ByteBuffer) (step : ContextStep) :
    ∃ b', (BodyBuffer.bytes b).take charset step = .bytes b' ∧ b'.capacity = b.capacity ∧
      b'.bytes = (b.bytes ++ step.asBytes).take b.capacity := by
  cases step with
  | writeBytes data => exact ⟨b.write data, rfl, rfl, b.bytes_write data⟩
  | writeText s => exact ⟨b.write (Text.Utf8.encode s.toList), rfl, rfl, b.bytes_write _⟩
  | capture key => exact ⟨b, rfl, rfl, by simp [asBytes, b.bytes_take]⟩
  | reset => exact ⟨b, rfl, rfl, by simp [asBytes, b.bytes_take]⟩

theorem take_chars (charset : Charset) (b : CharBuffer) (step : ContextStep) :
    ∃ b', (BodyBuffer.chars b).take charset step = .chars b' ∧ b'.capacity = b.capacity ∧
      b'.text.toList = (b.text.toList ++ step.asChars charset).take b.capacity := by
  cases step with
  | writeBytes data =>
    exact ⟨b.writeChars (charset.decodeChars data), rfl, rfl, b.toList_writeChars _⟩
  | writeText s => exact ⟨b.writeChars s.toList, rfl, rfl, b.toList_writeChars _⟩
  | capture key => exact ⟨b, rfl, rfl, by simp [asChars, b.toList_take]⟩
  | reset => exact ⟨b, rfl, rfl, by simp [asChars, b.toList_take]⟩

theorem render_take_bytes (charset : Charset) (b : ByteBuffer) (steps : List ContextStep) :
    (steps.foldl (take charset) (.bytes b)).render charset =
      (BodyBuffer.bytes b).textAfter charset steps := by
  induction steps generalizing b with
  | nil => simp [render, ByteBuffer.renderAs, textAfter, b.bytes_take]
  | cons step steps ih =>
    obtain ⟨b', next, room, holds⟩ := take_bytes charset b step
    rw [List.foldl_cons, next, ih, textAfter, textAfter, room, holds, take_take_append,
      List.flatMap_cons, List.append_assoc]

theorem render_take_chars (charset : Charset) (b : CharBuffer) (steps : List ContextStep) :
    (steps.foldl (take charset) (.chars b)).render charset =
      (BodyBuffer.chars b).textAfter charset steps := by
  induction steps generalizing b with
  | nil => simp [render, textAfter, b.toList_take]
  | cons step steps ih =>
    obtain ⟨b', next, room, holds⟩ := take_chars charset b step
    rw [List.foldl_cons, next, ih, textAfter, textAfter, room, holds, take_take_append,
      List.flatMap_cons, List.append_assoc]

/-- A buffer holds what the steps of a cycle brought, however they were cut. -/
theorem render_take (charset : Charset) (b : BodyBuffer) (steps : List ContextStep) :
    (steps.foldl (take charset) b).render charset = b.textAfter charset steps := by
  cases b with
  | bytes b => exact render_take_bytes charset b steps
  | chars b => exact render_take_chars charset b steps

theorem reset_take (charset : Charset) (b : BodyBuffer) (step : ContextStep) :
    (b.take charset step).reset = b.reset := by
  cases step <;> cases b <;> rfl

end BodyBuffer

/-! ## What the steps make of a context -/

namespace Context

/-- The context after a step. -/
def take (c : Context) : ContextStep → Context
  | .writeBytes bytes => c.writeBytes bytes
  | .writeText s => c.writeText s
  | .capture _ => { c with captured := true }
  | .reset => c.reset

theorem take_captured {c : Context} (done : c.captured = true) {step : ContextStep}
    (ne : step ≠ .reset) : c.take step = c := by
  cases step with
  | writeBytes bytes => simp [take, writeBytes, done]
  | writeText s => simp [take, writeText, done]
  | capture key =>
    rw [take, ← done]
  | reset => exact absurd rfl ne

theorem take_open {c : Context} (fresh : c.captured = false) {step : ContextStep}
    (ne : step ≠ .reset) :
    c.take step = { c with buffer := c.buffer.take c.charset step, captured := step.isCapture } := by
  cases step with
  | writeBytes bytes => simp [take, writeBytes, BodyBuffer.take, isCapture, fresh]
  | writeText s => simp [take, writeText, BodyBuffer.take, isCapture, fresh]
  | capture key => rfl
  | reset => exact absurd rfl ne

/-- What holds of a context `d` that the steps have made of `c`. -/
structure Led (c : Context) (steps : List ContextStep) (d : Context) : Prop where
  span : d.span = c.span
  key : d.key = c.key
  charset : d.charset = c.charset
  stage : d.stage = c.stage
  /-- The buffer has kept its kind and its room. -/
  room : d.buffer.reset = c.buffer.reset
  captured : d.captured = !c.isOpen steps
  /-- Until the body is recorded, the buffer has what the steps of the cycle brought. -/
  buffer : c.isOpen steps →
    d.buffer = (cycle steps).foldl (BodyBuffer.take c.charset) (c.started steps).buffer

namespace Led

variable {c d : Context} {steps : List ContextStep}

theorem nil (c : Context) : Led c [] c :=
  ⟨rfl, rfl, rfl, rfl, rfl, by simp [isOpen, started, cycle], fun _ => rfl⟩

theorem render (led : Led c steps d) (still : c.isOpen steps) : d.render = c.written steps := by
  rw [Context.render, led.charset, led.buffer still, BodyBuffer.render_take, written]

theorem take_reset (led : Led c steps d) : Led c (steps ++ [.reset]) d.reset where
  span := led.span
  key := led.key
  charset := led.charset
  stage := led.stage
  room := by
    rw [reset, led.room]
    cases c.buffer <;> rfl
  captured := by
    rw [isOpen_append_reset]
    rfl
  buffer := fun _ => by
    rw [cycle_append_reset, started_append_reset]
    exact led.room

theorem take_step (led : Led c steps d) {step : ContextStep} (ne : step ≠ .reset) :
    Led c (steps ++ [step]) (d.take step) := by
  cases still : c.isOpen steps with
  | false =>
    -- Nothing but a reset opens a cycle again.
    have shut : c.isOpen (steps ++ [step]) = false := by
      rw [isOpen_append ne, still]
      rfl
    have done : d.captured = true := by
      rw [led.captured, still]
      rfl
    rw [take_captured done ne]
    refine ⟨led.span, led.key, led.charset, led.stage, led.room, ?_, ?_⟩
    · rw [done, shut]
      rfl
    · intro now
      rw [shut] at now
      contradiction
  | true =>
    have fresh : d.captured = false := by
      rw [led.captured, still]
      rfl
    rw [take_open fresh ne]
    refine ⟨led.span, led.key, led.charset, led.stage, ?_, ?_, ?_⟩
    · rw [BodyBuffer.reset_take]
      exact led.room
    · rw [isOpen_append ne, still]
      simp
    · intro _
      rw [cycle_append ne, started_append ne, List.foldl_append, ← led.buffer still, led.charset]
      rfl

theorem take (led : Led c steps d) (step : ContextStep) : Led c (steps ++ [step]) (d.take step) := by
  by_cases again : step = .reset
  · rw [again]
    exact led.take_reset
  · exact led.take_step again

end Led
end Context

/-! ## What they make of the monitor -/

namespace Monitor

/-- What holds of a monitor `m'` that the steps with one context have made of `m`. -/
structure Led (m : Monitor) (i : Nat) (c : Context) (steps : List ContextStep) (m' : Monitor) :
    Prop where
  chain : m'.chain = m.chain
  moment : m'.moment = m.moment
  spanCount : m'.spans.size = m.spans.size
  context : ∃ d, m'.contexts[i]? = some d ∧ c.Led steps d

theorem contextStep_context {m : Monitor} {i : Nat} {c : Context} (held : m.contexts[i]? = some c)
    (step : ContextStep) : (m.contextStep i step).2.contexts[i]? = some (c.take step) := by
  cases step with
  | writeBytes bytes =>
    rw [contextStep, contexts_updateContext, if_pos rfl, held]
    rfl
  | writeText s =>
    rw [contextStep, contexts_updateContext, if_pos rfl, held]
    rfl
  | capture key =>
    cases done : c.captured with
    | true =>
      rw [Context.take_captured done (by simp), contextStep, captureContext_captured held done]
      exact held
    | false =>
      have marked := contexts_updateContext m i i fun _ => { c with captured := true }
      rw [if_pos rfl, held] at marked
      rw [contextStep, captureContext_open held done]
      exact marked
  | reset =>
    rw [contextStep, contexts_updateContext, if_pos rfl, held]
    rfl

theorem contextStep_registry (m : Monitor) (i : Nat) (step : ContextStep) :
    (m.contextStep i step).2.registry = m.registry := by
  cases step with
  | writeBytes bytes => rfl
  | writeText s => rfl
  | reset => rfl
  | capture key =>
    simp only [contextStep, captureContext]
    cases m.contexts[i]? <;> rfl

theorem contextStep_depth (m : Monitor) (i : Nat) (step : ContextStep) :
    (m.contextStep i step).2.depth = m.depth := by
  cases step with
  | writeBytes bytes => rfl
  | writeText s => rfl
  | reset => rfl
  | capture key =>
    simp only [contextStep, captureContext]
    cases m.contexts[i]? <;> rfl

/-- Another context is not touched. -/
theorem contextStep_other (m : Monitor) {i j : Nat} (other : i ≠ j) (step : ContextStep) :
    (m.contextStep i step).2.contexts[j]? = m.contexts[j]? := by
  have kept : ∀ f, (m.updateContext i f).contexts[j]? = m.contexts[j]? := fun f => by
    rw [contexts_updateContext, if_neg other]
  cases step with
  | writeBytes bytes => exact kept _
  | writeText s => exact kept _
  | reset => exact kept _
  | capture key =>
    simp only [contextStep, captureContext]
    cases m.contexts[i]? with
    | none => rfl
    | some c => exact kept _

namespace Led

variable {m m' : Monitor} {i : Nat} {c : Context} {steps : List ContextStep}

theorem nil (held : m.contexts[i]? = some c) : Led m i c [] m :=
  ⟨rfl, rfl, rfl, c, held, .nil c⟩

theorem step (led : Led m i c steps m') (step : ContextStep) :
    Led m i c (steps ++ [step]) (m'.contextStep i step).2 := by
  obtain ⟨d, held, leads⟩ := led.context
  have context : ∃ d, (m'.contextStep i step).2.contexts[i]? = some d ∧ c.Led (steps ++ [step]) d :=
    ⟨d.take step, contextStep_context held step, leads.take step⟩
  cases step with
  | writeBytes bytes => exact ⟨led.chain, led.moment, led.spanCount, context⟩
  | writeText s => exact ⟨led.chain, led.moment, led.spanCount, context⟩
  | reset => exact ⟨led.chain, led.moment, led.spanCount, context⟩
  | capture key =>
    cases done : d.captured with
    | true =>
      rw [contextStep, captureContext_captured held done] at context ⊢
      exact ⟨led.chain, led.moment, led.spanCount, context⟩
    | false =>
      rw [contextStep, captureContext_open held done] at context ⊢
      exact ⟨led.chain, led.moment, (spans_write_size _ _ _).trans led.spanCount, context⟩

theorem run (held : m.contexts[i]? = some c) (steps : List ContextStep) :
    Led m i c steps (m.contextRun i steps) := by
  induction steps using List.reverseRecOn with
  | nil => exact .nil held
  | append_singleton steps last ih =>
    rw [contextRun, List.foldl_append]
    exact ih.step last

end Led

theorem contextRun_append (m : Monitor) (i : Nat) (steps : List ContextStep) (step : ContextStep) :
    m.contextRun i (steps ++ [step]) = ((m.contextRun i steps).contextStep i step).2 := by
  rw [contextRun, List.foldl_append]
  rfl

theorem contextRun_registry (m : Monitor) (i : Nat) (steps : List ContextStep) :
    (m.contextRun i steps).registry = m.registry := by
  induction steps using List.reverseRecOn with
  | nil => rfl
  | append_singleton steps last ih => rw [contextRun_append, contextStep_registry, ih]

theorem contextRun_depth (m : Monitor) (i : Nat) (steps : List ContextStep) :
    (m.contextRun i steps).depth = m.depth := by
  induction steps using List.reverseRecOn with
  | nil => rfl
  | append_singleton steps last ih => rw [contextRun_append, contextStep_depth, ih]

theorem attached?_contextRun (m : Monitor) (i : Nat) (steps : List ContextStep) (store : StoreKey)
    (r : Resource) : (m.contextRun i steps).attached? store r = m.attached? store r := by
  rw [attached?, contextRun_registry, attached?]

theorem contextRun_contextRun (m : Monitor) (i : Nat) (first second : List ContextStep) :
    (m.contextRun i first).contextRun i second = m.contextRun i (first ++ second) :=
  List.foldl_append.symm

/-- The first capture of a cycle records what was written in the cycle before it, has the chain judge the
text if it is a request's, and answers the verdict if it blocks. -/
theorem contextStep_first {m : Monitor} {i : Nat} {c : Context} (held : m.contexts[i]? = some c)
    (made : c.span < m.spans.size) {steps : List ContextStep} (still : c.isOpen steps)
    (key : Option String) :
    let before := m.contextRun i steps
    let (answer, after) := before.contextStep i (.capture key)
    answer = some (c.stage.answer m.chain m.moment (c.written steps)) ∧
    (∀ j, after.span j = if c.span = j
      then (before.span j).setAll
        (c.stage.writes m.chain m.moment (key.getD c.key) (c.written steps))
      else before.span j) ∧
    after.judged = before.judged ++ (c.stage.request? (c.written steps)).toArray := by
  intro before
  have led := Led.run held steps
  obtain ⟨d, kept, leads⟩ := led.context
  have fresh : d.captured = false := by
    rw [leads.captured, still]
    rfl
  have room : c.span < before.spans.size := by
    rw [led.spanCount]
    exact made
  rw [contextStep, captureContext_open kept fresh, leads.render still, leads.stage, leads.span,
    leads.key, led.chain, led.moment]
  exact ⟨rfl, fun j => span_write (fun _ => room) _, rfl⟩

/-- Once the body of a cycle is recorded, nothing but a reset changes anything. -/
theorem contextStep_closed {m : Monitor} {i : Nat} {c : Context} (held : m.contexts[i]? = some c)
    {steps : List ContextStep} (shut : ¬ c.isOpen steps) {step : ContextStep} (ne : step ≠ .reset) :
    (m.contextRun i steps).contextStep i step =
      (if step.isCapture then some (.ok .alreadyCaptured) else none, m.contextRun i steps) := by
  obtain ⟨d, kept, leads⟩ := (Led.run held steps).context
  have done : d.captured = true := by
    rw [leads.captured]
    simpa using shut
  cases step with
  | writeBytes bytes =>
    have idle : ∀ e, (m.contextRun i steps).contexts[i]? = some e → e.writeBytes bytes = e := by
      intro e same
      cases Option.some.inj (kept.symm.trans same)
      exact Context.take_captured done ne
    rw [contextStep, updateContext_same idle]
    rfl
  | writeText s =>
    have idle : ∀ e, (m.contextRun i steps).contexts[i]? = some e → e.writeText s = e := by
      intro e same
      cases Option.some.inj (kept.symm.trans same)
      exact Context.take_captured done ne
    rw [contextStep, updateContext_same idle]
    rfl
  | capture key =>
    rw [contextStep, captureContext_captured kept done]
    rfl
  | reset => exact absurd rfl ne

/-- What is written or reset is neither recorded nor judged. -/
theorem contextStep_silent (m : Monitor) (i : Nat) {step : ContextStep} (other : ¬ step.isCapture) :
    (m.contextStep i step).1 = none ∧ (m.contextStep i step).2.spans = m.spans ∧
      (m.contextStep i step).2.judged = m.judged := by
  cases step with
  | capture key => exact absurd rfl other
  | writeBytes bytes => exact ⟨rfl, rfl, rfl⟩
  | writeText s => exact ⟨rfl, rfl, rfl⟩
  | reset => exact ⟨rfl, rfl, rfl⟩

/-- While nothing is captured, nothing is recorded or judged. -/
theorem contextRun_silent (m : Monitor) (i : Nat) {steps : List ContextStep}
    (silent : ∀ step ∈ steps, ¬ step.isCapture) :
    (m.contextRun i steps).spans = m.spans ∧ (m.contextRun i steps).judged = m.judged := by
  induction steps using List.reverseRecOn with
  | nil => exact ⟨rfl, rfl⟩
  | append_singleton steps last ih =>
    obtain ⟨spans, judged⟩ := ih fun step mem => silent step (List.mem_append_left _ mem)
    obtain ⟨_, spans', judged'⟩ :=
      contextStep_silent (m.contextRun i steps) i (silent last (by simp))
    rw [contextRun_append]
    exact ⟨spans'.trans spans, judged'.trans judged⟩

/-- Once the body is recorded, all that follows without a reset changes nothing. -/
theorem contextRun_closed {m : Monitor} {i : Nat} {c : Context} (held : m.contexts[i]? = some c)
    {steps more : List ContextStep} (shut : ¬ c.isOpen steps) (plain : .reset ∉ more) :
    m.contextRun i (steps ++ more) = m.contextRun i steps := by
  induction more generalizing steps with
  | nil => rw [List.append_nil]
  | cons next more ih =>
    have ne : next ≠ .reset := fun eq => plain (eq ▸ List.mem_cons_self)
    have still : ¬ c.isOpen (steps ++ [next]) := by
      rw [Context.isOpen_append ne]
      simp [shut]
    rw [List.append_cons, ih still fun mem => plain (List.mem_cons_of_mem _ mem),
      contextRun_append, contextStep_closed held shut ne]

/-- How a monitor `after` differs from `m` once a text is recorded as the body of a context. -/
structure TextRecorded (m : Monitor) (c : Context) (text : String) (after : Monitor) : Prop where
  span : ∀ j, after.span j = if c.span = j
    then (m.span j).setAll (c.stage.writes m.chain m.moment c.key text) else m.span j
  judged : after.judged = m.judged ++ (c.stage.request? text).toArray

/-- In a run without a reset the first capture records the text that is in the buffer by then, whatever
follows it. -/
theorem contextRun_first {m : Monitor} {i : Nat} {c : Context} (held : m.contexts[i]? = some c)
    (made : c.span < m.spans.size) (fresh : c.captured = false) {earlier later : List ContextStep}
    (before : .reset ∉ earlier) (after : .reset ∉ later) (silent : ∀ step ∈ earlier, ¬ step.isCapture) :
    m.TextRecorded c (c.buffer.textAfter c.charset earlier)
      (m.contextRun i (earlier ++ .capture none :: later)) := by
  have quiet : earlier.any isCapture = false := List.any_eq_false.mpr silent
  have still : c.isOpen earlier := by
    rw [Context.isOpen, Context.started_plain before, cycle_plain before, fresh, quiet]
    rfl
  have written : c.written earlier = c.buffer.textAfter c.charset earlier := by
    rw [Context.written, Context.started_plain before, cycle_plain before]
  have shut : ¬ c.isOpen (earlier ++ [.capture none]) := by
    rw [Context.isOpen_append (by simp)]
    simp [isCapture]
  obtain ⟨spans, judged⟩ := contextRun_silent m i silent
  have span : ∀ j, (m.contextRun i earlier).span j = m.span j := by
    intro j
    rw [Monitor.span, spans, Monitor.span]
  obtain ⟨_, here, asked⟩ := contextStep_first held made still none
  rw [List.append_cons, contextRun_closed held shut after, contextRun_append]
  simp only [written, span, judged, Option.getD_none] at here asked
  exact ⟨here, asked⟩

/-- In every cycle the first capture, and no other step, writes to the span and has the chain judge
anything. -/
theorem recorded_once_per_cycle {m : Monitor} {i : Nat} {c : Context} (held : m.contexts[i]? = some c)
    (made : c.span < m.spans.size) (steps : List ContextStep) (step : ContextStep) :
    let before := m.contextRun i steps
    let after := m.contextRun i (steps ++ [step])
    let answer := (before.contextStep i step).1
    let text := c.written steps
    (∀ key, step = .capture key → c.isOpen steps →
      answer = some (c.stage.answer m.chain m.moment text) ∧
      (∀ j, after.span j = if c.span = j
        then (before.span j).setAll (c.stage.writes m.chain m.moment (key.getD c.key) text)
        else before.span j) ∧
      after.judged = before.judged ++ (c.stage.request? text).toArray) ∧
    (step.isCapture → ¬ c.isOpen steps → answer = some (.ok .alreadyCaptured)) ∧
    (¬ c.isOpen steps → step ≠ .reset → after = before) ∧
    (¬ step.isCapture → answer = none ∧ after.spans = before.spans ∧ after.judged = before.judged) := by
  intro before after answer text
  have next : after = (before.contextStep i step).2 := contextRun_append m i steps step
  refine ⟨?_, ?_, ?_, ?_⟩
  · rintro key rfl still
    rw [next]
    exact contextStep_first held made still key
  · intro capture shut
    have ne : step ≠ .reset := by
      rintro rfl
      contradiction
    have closed := congrArg Prod.fst (contextStep_closed held shut ne)
    rw [if_pos capture] at closed
    exact closed
  · intro shut ne
    rw [next]
    exact congrArg Prod.snd (contextStep_closed held shut ne)
  · intro other
    rw [next]
    exact contextStep_silent before i other

/-- Of three bytes two fit, and the second capture is idle. -/
theorem recorded_once_of_three_bytes :
    let c : Context := ⟨0, "body", .bytes (.empty 2 .latin1), .latin1, .response, false⟩
    let m := ((start .default .empty ⟨none, 0⟩).newSpan.2.newContext c).2
    let once := m.contextRun 0 [.writeBytes [97, 98, 99], .capture none]
    once.span 0 = ⟨#[("body", "ab")]⟩ ∧ once.contextRun 0 [.capture none] = once := by
  intro c m once
  have first := (recorded_once_per_cycle (m := m) (i := 0) (c := c) rfl (by decide)
    [.writeBytes [97, 98, 99]] (.capture none)).1 none rfl rfl
  have second := (recorded_once_per_cycle (m := m) (i := 0) (c := c) rfl (by decide)
    [.writeBytes [97, 98, 99], .capture none] (.capture none)).2.2.1 (by decide) (by decide)
  exact ⟨first.2.1 0, second⟩

end Monitor
end Turnstile.Capture
