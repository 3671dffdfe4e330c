import Turnstile.Proofs.Capture.Cycle
import Turnstile.Proofs.Stream.Delivery
/-!
# Traffic through a layer

A stream that is used through a layer, by calls of any kind that tell the context what has streamed by and
when the body has ended. Whatever the kind, the first call that ends the body has recorded what streamed by
before it, and nothing is recorded after that (`recorded`).
-/
namespace Turnstile.Stream

open Capture

variable {σ κ α : Type}

/-- How a stream is used through a layer by calls of a kind. -/
structure Traffic (σ κ α : Type) where
  /-- What a call makes of the stream and the monitor. -/
  call : Probe → σ × Monitor → κ → σ × Monitor
  /-- The call comes to the end of the body. -/
  Ends : σ → κ → Prop
  /-- What has streamed by. -/
  body : σ → List α

namespace Traffic

/-- What calls make of the stream and the monitor, one after the other. -/
def run (w : Traffic σ κ α) (p : Probe) (t : σ × Monitor) (calls : List κ) : σ × Monitor :=
  calls.foldl (w.call p) t

/-- None of the calls comes to the end of the body. -/
def Unended (w : Traffic σ κ α) (p : Probe) : σ × Monitor → List κ → Prop
  | _, [] => True
  | t, k :: calls => ¬ w.Ends t.1 k ∧ Unended w p (w.call p t k) calls

instance decidableUnended (w : Traffic σ κ α) [∀ s k, Decidable (w.Ends s k)] (p : Probe) :
    (t : σ × Monitor) → (calls : List κ) → Decidable (w.Unended p t calls)
  | _, [] => .isTrue trivial
  | t, k :: calls =>
    have := decidableUnended w p (w.call p t k) calls
    inferInstanceAs (Decidable (¬ w.Ends t.1 k ∧ w.Unended p (w.call p t k) calls))

end Traffic
end Turnstile.Stream

namespace Turnstile.Capture

open Turnstile.Stream

/-- A layer is outside all calls of a kind, and a context of a number is attached to it. -/
structure Probe.Listens (p : Probe) (m : Monitor) (i : Nat) (kind : StreamKind) : Prop where
  here : m.attached? p.store p.resource = some i
  idle : m.depth.depth kind = 0

/-- A layer is outside all calls of a kind, and a context is attached to it whose body is still to be recorded. -/
structure Probe.Awaits (p : Probe) (m : Monitor) (i : Nat) (kind : StreamKind) (c : Context) : Prop
    extends p.Listens m i kind where
  held : m.contexts[i]? = some c
  made : c.span < m.spans.size
  fresh : c.captured = false

theorem Probe.Listens.contextRun {p : Probe} {m : Monitor} {i : Nat} {kind : StreamKind}
    (listens : p.Listens m i kind) (steps : List ContextStep) :
    p.Listens (m.contextRun i steps) i kind where
  here := (m.attached?_contextRun i steps _ _).trans listens.here
  idle := by
    rw [Monitor.contextRun_depth]
    exact listens.idle

end Turnstile.Capture

namespace Turnstile.Stream

open Capture

variable {σ κ α : Type} {w : Traffic σ κ α} {brings : ContextStep → List α} {i : Nat} {t t' t'' : σ × Monitor}

namespace Traffic

/-- Between `t` and `t'` a context has been shown what has streamed by, and nothing else has been done. -/
def Shown (w : Traffic σ κ α) (brings : ContextStep → List α) (i : Nat) (t t' : σ × Monitor) : Prop :=
  ∃ steps : List ContextStep, (∀ step ∈ steps, step ≠ .reset ∧ ¬ step.isCapture) ∧
    w.body t'.1 = w.body t.1 ++ steps.flatMap brings ∧ t'.2 = t.2.contextRun i steps

namespace Shown

theorem refl (t : σ × Monitor) : w.Shown brings i t t := ⟨[], by simp, by simp, rfl⟩

theorem trans (first : w.Shown brings i t t') (second : w.Shown brings i t' t'') :
    w.Shown brings i t t'' := by
  obtain ⟨steps, plain, body, told⟩ := first
  obtain ⟨steps', plain', body', told'⟩ := second
  refine ⟨steps ++ steps', ?_, ?_, ?_⟩
  · intro step mem
    exact (List.mem_append.mp mem).elim (plain step) (plain' step)
  · rw [body', body, List.flatMap_append, List.append_assoc]
  · rw [told', told, Monitor.contextRun_contextRun]

theorem listens {p : Probe} {kind : StreamKind} (shown : w.Shown brings i t t')
    (listens : p.Listens t.2 i kind) : p.Listens t'.2 i kind := by
  obtain ⟨steps, -, -, told⟩ := shown
  rw [told]
  exact listens.contextRun steps

end Shown

/-- What a call does to the context that is attached to the layer, if it is an outermost one: short of the end it
is shown what streams by, at the end the body is recorded. -/
structure Tells (w : Traffic σ κ α) (p : Probe) (kind : StreamKind) (brings : ContextStep → List α) :
    Prop where
  goesOn : ∀ {i t k}, p.Listens t.2 i kind → ¬ w.Ends t.1 k → w.Shown brings i t (w.call p t k)
  ends : ∀ {i t k}, p.Listens t.2 i kind → w.Ends t.1 k →
    (w.call p t k).2 = t.2.contextRun i [.capture none]

theorem run_append (w : Traffic σ κ α) (p : Probe) (t : σ × Monitor) (earlier later : List κ) :
    w.run p t (earlier ++ later) = w.run p (w.run p t earlier) later := List.foldl_append

section

variable {p : Probe} {kind : StreamKind} {calls : List κ} (tells : w.Tells p kind brings)
  (listens : p.Listens t.2 i kind)
include tells listens

theorem run_unended (unended : w.Unended p t calls) : w.Shown brings i t (w.run p t calls) := by
  induction calls generalizing t with
  | nil => exact .refl t
  | cons k calls ih =>
    obtain ⟨goesOn, rest⟩ := unended
    have first := tells.goesOn listens goesOn
    exact first.trans (ih (first.listens listens) rest)

/-- A call does to the monitor what is done with the context, whether it ends the body or not. -/
theorem call_told (k : κ) : ∃ steps, .reset ∉ steps ∧ (w.call p t k).2 = t.2.contextRun i steps := by
  by_cases ends : w.Ends t.1 k
  · exact ⟨_, by simp, tells.ends listens ends⟩
  · obtain ⟨steps, plain, -, told⟩ := tells.goesOn listens ends
    exact ⟨steps, fun mem => (plain _ mem).1 rfl, told⟩

theorem run_told (calls : List κ) :
    ∃ steps, .reset ∉ steps ∧ (w.run p t calls).2 = t.2.contextRun i steps := by
  induction calls generalizing t with
  | nil => exact ⟨[], by simp, rfl⟩
  | cons k calls ih =>
    obtain ⟨steps, plain, told⟩ := call_told tells listens k
    obtain ⟨steps', plain', told'⟩ := ih (told ▸ listens.contextRun steps)
    refine ⟨steps ++ steps', ?_, ?_⟩
    · rw [List.mem_append, not_or]
      exact ⟨plain, plain'⟩
    · rw [← Monitor.contextRun_contextRun, ← told]
      exact told'

end

/-- What calls through a layer leave on record of the body of a context: nothing before the first one that ends
the body, and at that one the text of what has streamed by, once and for all. -/
structure Records (w : Traffic σ κ α) (p : Probe) (t : σ × Monitor) (c : Context)
    (text : List α → String) : Prop where
  unended : ∀ calls, w.Unended p t calls →
    (w.run p t calls).2.spans = t.2.spans ∧ (w.run p t calls).2.judged = t.2.judged
  ended : ∀ earlier last later, w.Unended p t earlier → w.Ends (w.run p t earlier).1 last →
    ∃ streamed, w.body (w.run p t earlier).1 = w.body t.1 ++ streamed ∧
      t.2.TextRecorded c (text streamed) (w.run p t (earlier ++ last :: later)).2

theorem recorded {p : Probe} {kind : StreamKind} {c : Context} {text : List α → String}
    (tells : w.Tells p kind brings) (awaits : p.Awaits t.2 i kind c)
    (reads : ∀ steps, c.buffer.textAfter c.charset steps = text (steps.flatMap brings)) :
    w.Records p t c text where
  unended := by
    intro calls unended
    obtain ⟨steps, plain, -, told⟩ := run_unended tells awaits.toListens unended
    rw [told]
    exact t.2.contextRun_silent i fun step mem => (plain step mem).2
  ended := by
    intro earlier last later unended ends
    have before := run_unended tells awaits.toListens unended
    have still := before.listens awaits.toListens
    have atEnd := tells.ends still ends
    obtain ⟨rest, plain', told'⟩ := run_told tells (t := w.call p (w.run p t earlier) last)
      (atEnd ▸ still.contextRun _) later
    obtain ⟨steps, plain, body, told⟩ := before
    -- The later calls are told without a reset, so that they all fall into the cycle which is closed by now.
    have whole : (w.run p t (earlier ++ last :: later)).2 =
        t.2.contextRun i (steps ++ .capture none :: rest) := by
      rw [← Monitor.contextRun_contextRun, ← told, run_append]
      exact told'.trans (congrArg (Monitor.contextRun · i rest) atEnd)
    refine ⟨_, body, ?_⟩
    rw [whole, ← reads]
    exact Monitor.contextRun_first awaits.held awaits.made awaits.fresh (fun mem => (plain _ mem).1 rfl) plain'
      fun step mem => (plain step mem).2

end Traffic
end Turnstile.Stream
