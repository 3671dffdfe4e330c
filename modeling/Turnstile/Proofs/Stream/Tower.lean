import Turnstile.Proofs.Stream.Delivery
/-!
# Layers over layers

Instrumented layers stacked to any height over any stream, with readers of any kind between them, and
read at any height. Only the outermost call shows a shared context what came of it; what happens inside
it leaves no trace.
-/
namespace Turnstile.Stream

open Capture

variable {σ τ : Type}

/-! ## Stacks -/

/-- What a reader between two layers does when it is read: it may ask what is below any number of times
before it answers and is left in another state. -/
inductive Plan (τ : Type)
  | answer (result : Except Fault Bytes) (t : τ)
  | ask (n : Nat) (next : Except Fault Bytes → Plan τ)

namespace Plan

/-- Carries a plan out on what is below. -/
def run (read : σ → Nat → Monitor → Answer Bytes σ) : Plan τ → σ → Monitor → Answer Bytes (τ × σ)
  | .answer result t, s, m => (result, (t, s), m)
  | .ask n next, s, m =>
    let (came, s, m) := read s n m
    run read (next came) s m

/-- What is noted of the reads below while a plan is carried out. -/
def log (read : σ → Nat → Monitor → Answer Bytes σ) (note : σ → Nat → Monitor → List Reading) :
    Plan τ → σ → Monitor → List Reading
  | .answer _ _, _, _ => []
  | .ask n next, s, m =>
    let (came, s', m') := read s n m
    note s n m ++ log read note (next came) s' m'

end Plan

/-- A stream under `height` layers: instrumented ones, and readers in any state. -/
inductive Tower (σ τ : Type) : Nat → Type
  | source (s : σ) : Tower σ τ 0
  | probed {height : Nat} (p : Probe) (inner : Tower σ τ height) : Tower σ τ (height + 1)
  | between {height : Nat} (t : τ) (inner : Tower σ τ height) : Tower σ τ (height + 1)

namespace Tower

/-- The instrumented layers, the outermost first. -/
def probes : {height : Nat} → Tower σ τ height → List Probe
  | 0, .source _ => []
  | _ + 1, .probed p inner => p :: inner.probes
  | _ + 1, .between _ inner => inner.probes

section

variable (src : Source σ) (layer : τ → Nat → Plan τ)

/-- One read of at most `n` bytes. -/
def read : {height : Nat} → Tower σ τ height → Nat → Monitor → Answer Bytes (Tower σ τ height)
  | 0, .source s, n, m =>
    let (came, s, m) := src.lift s n m
    (came, .source s, m)
  | _ + 1, .probed p inner, n, m =>
    let (came, inner, m) := p.read (fun t => t.read) inner n m
    (came, .probed p inner, m)
  | _ + 1, .between t inner, n, m =>
    let (came, (t, inner), m) := (layer t n).run (fun t => t.read) inner m
    (came, .between t inner, m)

/-- The outermost instrumented calls of a read, in order: those on the first instrumented layer from
above, each with what came of the stream below it. -/
def outermost : {height : Nat} → Tower σ τ height → Nat → Monitor → List Reading
  | 0, .source _, _, _ => []
  | _ + 1, .probed _ inner, n, m => [⟨n, (inner.read src layer n (m.enter .byteInput).2).1⟩]
  | _ + 1, .between t inner, n, m =>
    (layer t n).log (fun t => t.read src layer) (fun t => t.outermost) inner m

/-- One read so many layers below the top. -/
def readAt : {height : Nat} → Nat → Tower σ τ height → Nat → Monitor →
    Answer Bytes (Tower σ τ height)
  | _, 0, t, n, m => t.read src layer n m
  | _, _ + 1, .source s, n, m => (Tower.source s).read src layer n m
  | _, level + 1, .probed p inner, n, m =>
    let (came, inner, m) := inner.readAt level n m
    (came, .probed p inner, m)
  | _, level + 1, .between t inner, n, m =>
    let (came, inner, m) := inner.readAt level n m
    (came, .between t inner, m)

/-- The outermost instrumented calls of such a read. -/
def outermostAt : {height : Nat} → Nat → Tower σ τ height → Nat → Monitor → List Reading
  | _, 0, t, n, m => t.outermost src layer n m
  | _, _ + 1, .source _, _, _ => []
  | _, level + 1, .probed _ inner, n, m => inner.outermostAt level n m
  | _, level + 1, .between _ inner, n, m => inner.outermostAt level n m

/-- Reads at these levels and of these sizes, one after the other: the stack and the monitor after
them. -/
def reads {height : Nat} (t : Tower σ τ height) (m : Monitor) (visits : List (Nat × Nat)) :
    Tower σ τ height × Monitor :=
  visits.foldl (fun s visit => (s.1.readAt src layer visit.1 visit.2 s.2).2) (t, m)

/-- Their outermost instrumented calls, in order. -/
def calls {height : Nat} (t : Tower σ τ height) (m : Monitor) : List (Nat × Nat) → List Reading
  | [] => []
  | (level, n) :: visits =>
    let (_, t', m') := t.readAt src layer level n m
    t.outermostAt src layer level n m ++ calls t' m' visits

end
end Tower

/-! ## Plans -/

namespace Plan

variable {Inv : σ → Monitor → Prop} {read : σ → Nat → Monitor → Answer Bytes σ}
  {note : σ → Nat → Monitor → List Reading} {i : Nat}

/-- A plan keeps what every read below keeps. -/
theorem run_preserves (step : ∀ s n m, Inv s m → Inv (read s n m).2.1 (read s n m).2.2)
    (plan : Plan τ) (s : σ) (m : Monitor) (holds : Inv s m) :
    Inv (plan.run read s m).2.1.2 (plan.run read s m).2.2 := by
  induction plan generalizing s m with
  | answer result t => exact holds
  | ask n next ih => exact ih _ _ _ (step s n m holds)

/-- If every read below shows a context what is noted of it, so does a plan. -/
theorem run_log (keeps : ∀ s n m, Inv s m → Inv (read s n m).2.1 (read s n m).2.2)
    (shows : ∀ s n m, Inv s m →
      (read s n m).2.2 = m.contextRun i ((note s n m).flatMap Reading.steps))
    (plan : Plan τ) (s : σ) (m : Monitor) (holds : Inv s m) :
    (plan.run read s m).2.2 = m.contextRun i ((plan.log read note s m).flatMap Reading.steps) := by
  induction plan generalizing s m with
  | answer result t => rfl
  | ask n next ih =>
    have first := shows s n m holds
    have rest := ih (read s n m).1 (read s n m).2.1 (read s n m).2.2 (keeps s n m holds)
    rw [first] at rest
    rw [log, List.flatMap_append, ← Monitor.contextRun_contextRun]
    simp only [run]
    rw [first]
    exact rest

end Plan

/-! ## Reads inside a call -/

namespace Tower

section

variable (src : Source σ) (layer : τ → Nat → Plan τ)

/-- The layers of a stack stay what they are. -/
theorem probes_read {height : Nat} (t : Tower σ τ height) (n : Nat) (m : Monitor) :
    (t.read src layer n m).2.1.probes = t.probes := by
  induction height generalizing n m with
  | zero =>
    cases t with
    | source s => rfl
  | succ height ih =>
    cases t with
    | probed p inner =>
      have below : (p.read (fun t => t.read src layer) inner n m).2.1 = _ := p.around_stream _ _ _ _ m
      show p :: (p.read (fun t => t.read src layer) inner n m).2.1.probes = p :: inner.probes
      rw [below, ih]
    | between t inner =>
      have keeps : ∀ (s : Tower σ τ height) (n : Nat) (m : Monitor), s.probes = inner.probes →
          (s.read src layer n m).2.1.probes = inner.probes := fun s n m same => (ih s n m).trans same
      exact (layer t n).run_preserves keeps inner m rfl

theorem busy_enter (m : Monitor) (c : StreamKind) : (m.enter c).2.depth.depth c ≠ 0 := by
  simp [Monitor.enter, Guard.enter, CallDepth.enter, CallDepth.depth_set]

/-- Inside an instrumented call a read leaves everything as it is. -/
theorem read_inside {height : Nat} (t : Tower σ τ height) (n : Nat) {m : Monitor}
    (busy : m.depth.depth .byteInput ≠ 0) : (t.read src layer n m).2.2 = m := by
  induction height generalizing n m with
  | zero =>
    cases t with
    | source s => rfl
  | succ height ih =>
    cases t with
    | probed p inner =>
      have came : inner.read src layer n (m.enter .byteInput).2 = (_, _, (m.enter .byteInput).2) :=
        Prod.ext rfl (Prod.ext rfl (ih inner n (busy_enter m .byteInput)))
      have whole := p.around_inside .byteInput Fault.blocked (inner.read src layer n)
        (fun bytes _ => .ofRead n bytes) busy came
      exact congrArg (·.2.2) whole
    | between t inner =>
      have keeps : ∀ (s : Tower σ τ height) (n : Nat) (m' : Monitor), m' = m →
          (s.read src layer n m').2.2 = m := by
        rintro s n m' rfl
        exact ih s n busy
      exact (layer t n).run_preserves keeps inner m rfl

/-! ## Outermost reads -/

/-- What came of the stream below an outermost instrumented call, and what that call answers. -/
theorem read_probed {height : Nat} (p : Probe) (inner : Tower σ τ height) (n : Nat) {m : Monitor}
    (idle : m.depth.depth .byteInput = 0) :
    let below := inner.read src layer n (m.enter .byteInput).2
    let told := p.notify m (Reading.mk n below.1).notice
    (Tower.probed p inner).read src layer n m =
      ((told.1.mapError .blocked).bind fun _ => below.1, .probed p below.2.1, told.2) := by
  intro below told
  have came : inner.read src layer n (m.enter .byteInput).2 =
      (below.1, below.2.1, (m.enter .byteInput).2) :=
    Prod.ext rfl (Prod.ext rfl (inner.read_inside src layer n (busy_enter m .byteInput)))
  have whole := p.read_eq came
  simp only [idle] at whole
  rw [read, whole]
  rfl

/-- A context attached to every layer of a stack, while no instrumented call is under way. -/
structure Shared (i : Nat) {height : Nat} (t : Tower σ τ height) (m : Monitor) : Prop where
  attached : ∀ p ∈ t.probes, m.attached? p.store p.resource = some i
  idle : m.depth.depth .byteInput = 0

theorem Shared.told {i : Nat} {height : Nat} {t t' : Tower σ τ height} {m : Monitor}
    (shared : t.Shared i m) (same : t'.probes = t.probes) (steps : List ContextStep) :
    t'.Shared i (m.contextRun i steps) where
  attached := by
    intro p mem
    rw [Monitor.attached?_contextRun]
    exact shared.attached p (same ▸ mem)
  idle := by
    rw [Monitor.contextRun_depth]
    exact shared.idle

/-- A read shows the shared context what came of its outermost instrumented calls, and nothing else. -/
theorem read_shared {i height : Nat} {t : Tower σ τ height} {m : Monitor} (shared : t.Shared i m)
    (n : Nat) : (t.read src layer n m).2.2 =
      m.contextRun i ((t.outermost src layer n m).flatMap Reading.steps) := by
  induction height generalizing n m with
  | zero =>
    cases t with
    | source s => rfl
  | succ height ih =>
    cases t with
    | probed p inner =>
      have here := shared.attached p List.mem_cons_self
      rw [read_probed src layer p inner n shared.idle, Probe.notify_attached here, outermost,
        List.flatMap_singleton]
      rfl
    | between t inner =>
      -- What stands between asks below as often as it likes, each time outside of any call.
      have keeps : ∀ (s : Tower σ τ height) (n : Nat) (m : Monitor), s.Shared i m →
          (s.read src layer n m).2.1.Shared i (s.read src layer n m).2.2 := by
        intro s n m holds
        rw [ih holds]
        exact holds.told (s.probes_read src layer n m) _
      exact (layer t n).run_log keeps (fun s n m holds => ih holds n) inner m
        ⟨shared.attached, shared.idle⟩

/-! ## Reads at any level -/

theorem probes_readAt {height : Nat} (level : Nat) (t : Tower σ τ height) (n : Nat) (m : Monitor) :
    (t.readAt src layer level n m).2.1.probes = t.probes := by
  induction level generalizing height with
  | zero => exact t.probes_read src layer n m
  | succ level ih =>
    cases t with
    | source s => rfl
    | probed p inner => exact congrArg (p :: ·) (ih inner)
    | between t inner => exact ih inner

theorem readAt_shared {i height : Nat} (level : Nat) {t : Tower σ τ height} {m : Monitor}
    (shared : t.Shared i m) (n : Nat) : (t.readAt src layer level n m).2.2 =
      m.contextRun i ((t.outermostAt src layer level n m).flatMap Reading.steps) := by
  induction level generalizing height with
  | zero => exact read_shared src layer shared n
  | succ level ih =>
    cases t with
    | source s => rfl
    | probed p inner =>
      have below : inner.Shared i m :=
        ⟨fun q mem => shared.attached q (List.mem_cons_of_mem p mem), shared.idle⟩
      exact ih below
    | between t inner =>
      have below : inner.Shared i m := ⟨shared.attached, shared.idle⟩
      exact ih below

theorem Shared.readAt {i height : Nat} {t : Tower σ τ height} {m : Monitor} (shared : t.Shared i m)
    (level n : Nat) :
    (t.readAt src layer level n m).2.1.Shared i (t.readAt src layer level n m).2.2 := by
  rw [readAt_shared src layer level shared n]
  exact shared.told (t.probes_readAt src layer level n m) _

/-- A run shows the shared context what came of all its outermost instrumented calls. -/
theorem reads_shared {i height : Nat} {t : Tower σ τ height} {m : Monitor} (shared : t.Shared i m)
    (visits : List (Nat × Nat)) :
    (t.reads src layer m visits).1.Shared i (t.reads src layer m visits).2 ∧
    (t.reads src layer m visits).2 =
      m.contextRun i ((t.calls src layer m visits).flatMap Reading.steps) := by
  induction visits generalizing t m with
  | nil => exact ⟨shared, rfl⟩
  | cons visit visits ih =>
    obtain ⟨level, n⟩ := visit
    obtain ⟨still, ran⟩ := ih (shared.readAt src layer level n)
    have first := readAt_shared src layer level shared n
    refine ⟨still, ran.trans ?_⟩
    rw [calls, List.flatMap_append, ← Monitor.contextRun_contextRun, ← first]

/-- Over stacks of instrumented layers that share a context, whatever stands between them and wherever
they are read, what is recorded is what came of the outermost calls up to the first of them that is at
the end of the stream, once. The depth is back at its start after every call, whatever that answers, and
a call inside another one leaves nothing behind. -/
theorem reads_recorded_outermost {i height : Nat} {t : Tower σ τ height} {m : Monitor} {c : Context}
    {capacity : Nat} (shared : t.Shared i m) (held : m.contexts[i]? = some c)
    (made : c.span < m.spans.size) (fresh : c.captured = false)
    (empty : c.buffer = .bytes (.empty capacity c.charset)) (visits : List (Nat × Nat)) :
    let ran := t.reads src layer m visits
    m.BodyRecorded c capacity (t.calls src layer m visits) ran.2 ∧
    ran.2.depth.depth .byteInput = 0 ∧
    (∀ {k : Nat} (p : Probe) (inner : Tower σ τ k) (n : Nat) (m' : Monitor),
      m'.depth.depth .byteInput = 0 →
        let came : Reading := ⟨n, (inner.read src layer n (m'.enter .byteInput).2).1⟩
        let call := (Tower.probed p inner).read src layer n m'
        (Tower.probed p inner).outermost src layer n m' = [came] ∧
          (¬ came.IsEnd → call.1 = came.came) ∧ call.2.2.depth.depth .byteInput = 0) ∧
    (∀ {k : Nat} (inner : Tower σ τ k) (n : Nat) (m' : Monitor),
      m'.depth.depth .byteInput ≠ 0 → (inner.read src layer n m').2.2 = m') := by
  intro ran
  obtain ⟨still, shown⟩ := reads_shared src layer shared visits
  refine ⟨?_, still.idle, ?_, fun inner n m' busy => inner.read_inside src layer n busy⟩
  · rw [show ran.2 = _ from shown]
    exact Monitor.contextRun_recorded held made fresh empty _
  · intro k p inner n m' idle came call
    have whole := read_probed src layer p inner n idle
    refine ⟨rfl, ?_, ?_⟩
    · intro goesOn
      have told := p.notify_fst m' (mt Reading.notice_eq_ended_iff.mp goesOn)
      rw [show call = _ from whole, told]
      rfl
    · rw [show call = _ from whole, (p.notify_kept m' came.notice).depth]
      exact idle

end
end Tower

/-! ## Readers are stacks -/

/-- Asks for one byte after the other until there are `n` of them, or no more. -/
def Plan.singly : Nat → Bytes → Plan Unit
  | 0, done => .answer (.ok done.reverse) ()
  | n + 1, done => .ask 1 fun
    | .error f => .answer (.error f) ()
    | .ok [] => .answer (.ok done.reverse) ()
    | .ok (b :: _) => singly n (b :: done)

/-- A reader as a stack over its script. -/
def Reader.tower : {height : Nat} → Reader height → Tower Script Unit height
  | 0, .script s => .source s
  | _ + 1, .probed p inner => .probed p inner.tower
  | _ + 1, .single inner => .between () inner.tower

/-- What a layer does that goes byte by byte. -/
def Reader.singly (_ : Unit) (n : Nat) : Plan Unit := .singly n []

namespace Reader

theorem readSingly_run {ρ : Type} {read : σ → Nat → Monitor → Answer Bytes σ}
    {read' : ρ → Nat → Monitor → Answer Bytes ρ} (f : σ → ρ)
    (same : ∀ s n m, read' (f s) n m = ((read s n m).1, f (read s n m).2.1, (read s n m).2.2))
    (n : Nat) (done : Bytes) (s : σ) (m : Monitor) :
    let a := readSingly read n done s m
    (Plan.singly n done).run read' (f s) m = (a.1, ((), f a.2.1), a.2.2) := by
  induction n generalizing done s m with
  | zero => rfl
  | succ n ih =>
    rw [readSingly, Plan.singly, Plan.run]
    simp only [same]
    rcases read s 1 m with ⟨f' | _ | ⟨b, bs⟩, s', m'⟩
    · rfl
    · rfl
    · exact ih (b :: done) s' m'

/-- Reading a reader is reading it as a stack. -/
theorem read_tower {height : Nat} (r : Reader height) (n : Nat) (m : Monitor) :
    r.tower.read Script.source singly n m =
      ((r.read n m).1, (r.read n m).2.1.tower, (r.read n m).2.2) := by
  induction height generalizing n m with
  | zero =>
    cases r with
    | script s => rfl
  | succ height ih =>
    cases r with
    | probed p inner =>
      have whole := p.read_map Reader.tower ih inner n m
      rw [tower, Tower.read, whole]
      rfl
    | single inner =>
      have whole := readSingly_run Reader.tower ih n [] inner m
      rw [tower, Tower.read, singly, whole]
      rfl

/-- Two layers with one that goes byte by byte between them, read at each of the three: what is recorded
is what the outermost calls gave. -/
theorem reads_recorded_of_two_layers :
    let store : StoreKey := ⟨.byteInput, .request⟩
    let r : Reader 3 := .probed ⟨⟨0, 0⟩, store⟩ (.single (.probed ⟨⟨1, 1⟩, store⟩
      (.script [.chunk [97, 98, 99], .fault (.failed .timedOut), .chunk [100, 101]])))
    let c : Context := ⟨0, "body", .bytes (.empty 4 .latin1), .latin1, .response, false⟩
    let m := ((Monitor.start .default .empty ⟨none, 0⟩).newSpan.2.attachNew store ⟨0, 0⟩ c).2.attach
      store ⟨1, 1⟩ 0
    (r.tower.reads Script.source singly m
      [(0, 2), (1, 1), (0, 2), (2, 1), (0, 2), (0, 2), (0, 2)]).2.span 0 = ⟨#[("body", "abcd")]⟩ := by
  intro store r c m
  have shared : r.tower.Shared 0 m := ⟨by decide, rfl⟩
  have recorded := (Tower.reads_recorded_outermost Script.source singly shared (c := c) rfl
    (by decide) rfl rfl [(0, 2), (1, 1), (0, 2), (2, 1), (0, 2), (0, 2), (0, 2)]).1
  obtain ⟨written, -⟩ := recorded.ended
    [⟨2, .ok [97, 98]⟩, ⟨1, .ok [99]⟩, ⟨2, .error (.failed .timedOut)⟩, ⟨1, .ok [100]⟩,
      ⟨2, .ok [101]⟩] ⟨2, .ok []⟩ [⟨2, .ok []⟩] (by decide +kernel) (by simp [Reading.IsEnd])
    ⟨by decide, rfl⟩
  exact written 0

end Reader
end Turnstile.Stream
