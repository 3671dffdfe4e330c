import Turnstile.Proofs.Capture.Monitor
import Turnstile.Stream.Layer
/-!
# What a layer adds to a call

Whatever is below, a layer changes only the context attached to it, and the depth after a call is the
depth before. Where the call below leaves the monitor alone, a call inside another one of its kind leaves
it alone too, and an outermost one does to it what the notice says.
-/
namespace Turnstile.Stream

/-- What a context is told of a call by its result: nothing of a failure, nor of a call inside another
one. -/
def Notice.heard {ε α : Type} (outermost : Prop) [Decidable outermost] (notice : α → Notice) :
    Except ε α → Notice
  | .error _ => .nothing
  | .ok a => if outermost then notice a else .nothing

end Turnstile.Stream

namespace Turnstile.Capture

open Policy Turnstile.Stream

/-! ## Notices inside a call -/

/-- After a call everything is as it would be without it. -/
theorem Monitor.leave_enter {m m₁ : Monitor} (same : m₁.depth = m.depth) (c : StreamKind) :
    Monitor.leave { m₁ with depth := (m.enter c).2.depth } (m.enter c).1 = m₁ := by
  show { m₁ with depth := (Guard.enter m.depth c).1.drop (Guard.enter m.depth c).2 } = m₁
  rw [Guard.drop_enter, ← same]

theorem Context.span_writeText (c : Context) (s : String) : (c.writeText s).span = c.span := by
  by_cases done : c.captured <;> simp [writeText, done]

namespace Probe

theorem record_depth (p : Probe) (m : Monitor) (d : CallDepth) (f : Context → Context) :
    p.record { m with depth := d } f = { p.record m f with depth := d } := by
  have same : Monitor.attached? { m with depth := d } p.store p.resource =
      m.attached? p.store p.resource := rfl
  rw [record, record, same]
  cases m.attached? p.store p.resource <;> rfl

theorem finalize_depth (p : Probe) (m : Monitor) (d : CallDepth) :
    p.finalize { m with depth := d } = ((p.finalize m).1, { (p.finalize m).2 with depth := d }) := by
  have same : Monitor.attached? { m with depth := d } p.store p.resource =
      m.attached? p.store p.resource := rfl
  rw [finalize, finalize, same]
  cases m.attached? p.store p.resource with
  | none => rfl
  | some i =>
    simp only [Monitor.captureContext]
    cases m.contexts[i]? <;> rfl

/-- Only the end of a body can be blocked. -/
theorem notify_fst (p : Probe) (m : Monitor) {notice : Notice} (goesOn : notice ≠ .ended) :
    (p.notify m notice).1 = .ok none := by
  cases notice with
  | nothing => rfl
  | bytes bytes => rfl
  | text s => rfl
  | ended => exact absurd rfl goesOn

theorem notify_kept (p : Probe) (m : Monitor) (notice : Notice) :
    Monitor.Kept [p] m (p.notify m notice).2 := by
  cases notice with
  | nothing => exact .refl [p] m
  | bytes bytes => exact p.record_kept m fun c => c.span_writeBytes bytes
  | text s => exact p.record_kept m fun c => c.span_writeText s
  | ended => exact p.finalize_kept m

theorem notify_depth (p : Probe) (m : Monitor) (d : CallDepth) (notice : Notice) :
    p.notify { m with depth := d } notice =
      ((p.notify m notice).1, { (p.notify m notice).2 with depth := d }) := by
  cases notice with
  | nothing => rfl
  | bytes bytes => rw [notify, p.record_depth, notify]
  | text s => rw [notify, p.record_depth, notify]
  | ended => exact p.finalize_depth m d

/-- A notice does within a call what it does without. -/
theorem notify_enter (p : Probe) (m : Monitor) (c : StreamKind) (notice : Notice) :
    (p.notify (m.enter c).2 notice).1 = (p.notify m notice).1 ∧
      (p.notify (m.enter c).2 notice).2.leave (m.enter c).1 = (p.notify m notice).2 := by
  have inside : p.notify (m.enter c).2 notice =
      ((p.notify m notice).1, { (p.notify m notice).2 with depth := (m.enter c).2.depth }) :=
    p.notify_depth m _ notice
  rw [inside]
  exact ⟨rfl, Monitor.leave_enter (p.notify_kept m notice).depth c⟩

/-! ## Calls through a layer -/

section

variable {ε α σ : Type} (p : Probe) (kind : StreamKind) (blocked : Verdict → ε)
  (below : Monitor → Except ε α × σ × Monitor) (notice : α → σ → Notice) (m : Monitor)

/-- The stream below is called once, and left as that call leaves it. -/
theorem around_stream :
    (p.around kind blocked below notice m).2.1 = (below (m.enter kind).2).2.1 := by
  rcases came : below (m.enter kind).2 with ⟨result, s, m₁⟩
  rw [around]
  simp only [came]
  cases result with
  | error f => rfl
  | ok a =>
    simp only
    split
    · split <;> rfl
    · rfl

variable {below m} in
theorem around_kept {probes : List Probe}
    (kept : Monitor.Kept probes (m.enter kind).2 (below (m.enter kind).2).2.2) :
    Monitor.Kept (p :: probes) m (p.around kind blocked below notice m).2.2 := by
  have entered : m.enter kind = ((m.enter kind).1, (m.enter kind).2) := rfl
  rcases came : below (m.enter kind).2 with ⟨result, s, m₁⟩
  rw [came] at kept
  have within : Monitor.Kept (p :: probes) (m.enter kind).2 m₁ :=
    kept.mono fun q mem => List.mem_cons_of_mem p mem
  rw [around]
  simp only [came]
  cases result with
  | error f => exact within.leave entered
  | ok a =>
    have told : Monitor.Kept (p :: probes) m₁ (p.notify m₁ (notice a s)).2 :=
      (p.notify_kept m₁ (notice a s)).mono (by simp)
    simp only
    split
    · split
      · rename_i eq
        rw [eq] at told
        exact (within.trans told).leave entered
      · rename_i eq
        rw [eq] at told
        exact (within.trans told).leave entered
    · exact within.leave entered

variable {m} {result : Except ε α} {s : σ}

/-- Over a stream that leaves the monitor alone, a call answers what came below unless that is blocked,
and does to the monitor what its context is told. -/
theorem around_eq (came : below (m.enter kind).2 = (result, s, (m.enter kind).2)) :
    let told := p.notify m (.heard (m.depth.depth kind = 0) (notice · s) result)
    p.around kind blocked below notice m =
      ((told.1.mapError blocked).bind fun _ => result, s, told.2) := by
  have back : (m.enter kind).2.leave (m.enter kind).1 = m := Monitor.leave_enter rfl kind
  intro told
  rw [around]
  cases result with
  | error f =>
    simp only [came, back]
    rfl
  | ok a =>
    -- The guard was made with the depth at entry, so that depth decides whether anything is told.
    by_cases idle : m.depth.depth kind = 0
    · have outer : (m.enter kind).1.outermost = true := by simp [Monitor.enter, Guard.enter, idle]
      have whole : told = p.notify m (notice a s) := by simp only [told, Notice.heard, if_pos idle]
      obtain ⟨answer, after⟩ := p.notify_enter m kind (notice a s)
      rcases inner : p.notify (m.enter kind).2 (notice a s) with ⟨verdict, m₁⟩
      rw [inner] at answer after
      rw [whole, ← answer, ← after]
      simp only [came, outer, inner, if_true]
      cases verdict <;> rfl
    · have inside : (m.enter kind).1.outermost = false := by
        simpa [Monitor.enter, Guard.enter] using idle
      have none : told = (.ok none, m) := by
        simp only [told, Notice.heard, if_neg idle]
        rfl
      simp only [came, inside, back, none, Bool.false_eq_true, if_false]
      rfl

/-- Inside another call of its kind, a layer only hands on what is below. -/
theorem around_inside (busy : m.depth.depth kind ≠ 0)
    (came : below (m.enter kind).2 = (result, s, (m.enter kind).2)) :
    p.around kind blocked below notice m = (result, s, m) := by
  have none : Notice.heard (m.depth.depth kind = 0) (notice · s) result = .nothing := by
    cases result with
    | error f => rfl
    | ok a => exact if_neg busy
  have whole := p.around_eq kind blocked below notice came
  rw [none] at whole
  exact whole

end

/-- A read does over an image of a stream what it does over the stream. -/
theorem read_map {σ ρ : Type} (p : Probe) {below : σ → Nat → Monitor → Answer Bytes σ}
    {below' : ρ → Nat → Monitor → Answer Bytes ρ} (f : σ → ρ)
    (same : ∀ s n m, below' (f s) n m =
      ((below s n m).1, f (below s n m).2.1, (below s n m).2.2)) (s : σ) (n : Nat) (m : Monitor) :
    p.read below' (f s) n m =
      ((p.read below s n m).1, f (p.read below s n m).2.1, (p.read below s n m).2.2) := by
  rw [read, read, around, around]
  simp only [same]
  rcases below s n (m.enter .byteInput).2 with ⟨f | bytes, s', m'⟩
  · rfl
  · simp only
    split
    · split <;> rfl
    · rfl

section

variable {σ : Type} (p : Probe) {s s' : σ} {m : Monitor}

/-- A read, by what came of it below. -/
theorem read_eq {below : σ → Nat → Monitor → Answer Bytes σ} {n : Nat} {result : Except Fault Bytes}
    (came : below s n (m.enter .byteInput).2 = (result, s', (m.enter .byteInput).2)) :
    let told := p.notify m (.heard (m.depth.depth .byteInput = 0) (.ofRead n) result)
    p.read below s n m = ((told.1.mapError .blocked).bind fun _ => result, s', told.2) :=
  p.around_eq .byteInput Fault.blocked (below s n) (fun bytes _ => .ofRead n bytes) came

/-- A line, by what came of it below. -/
theorem readLine_eq {below : σ → String → Except Fault Nat × String × σ} {line after : String}
    {result : Except Fault Nat} (came : below s line = (result, after, s')) :
    let told := p.notify m (.heard (m.depth.depth .charInput = 0) (.ofLine line · after) result)
    p.readLine below s line m =
      ((told.1.mapError .blocked).bind fun _ => result, (after, s'), told.2) := by
  let taken := fun m : Monitor => ((below s line).1, (below s line).2, m)
  have here : taken (m.enter .charInput).2 = (result, (after, s'), (m.enter .charInput).2) := by
    simp only [taken, came]
  have whole := p.around_eq .charInput Fault.blocked taken (fun n s => .ofLine line n s.1) here
  exact whole

/-- A write, by what came of it below. -/
theorem write_eq {below : σ → Bytes → Monitor → Answer Nat σ} {bytes : Bytes}
    {result : Except Fault Nat}
    (came : below s bytes (m.enter .byteOutput).2 = (result, s', (m.enter .byteOutput).2)) :
    let told := p.notify m
      (.heard (m.depth.depth .byteOutput = 0) (fun n => .bytes (bytes.take n)) result)
    p.write below s bytes m = ((told.1.mapError .blocked).bind fun _ => result, s', told.2) :=
  p.around_eq .byteOutput Fault.blocked (below s bytes) (fun n _ => .bytes (bytes.take n)) came

/-- A piece of text, by what came of it below: nothing that is told of it can block. -/
theorem writeText_eq {below : σ → String → Monitor → Bool × σ × Monitor} {piece : String} {ok : Bool}
    (came : below s piece (m.enter .charOutput).2 = (ok, s', (m.enter .charOutput).2)) :
    let told := p.notify m (.heard (m.depth.depth .charOutput = 0) (fun _ => .text piece)
      (if ok then Except.ok () else .error ()))
    p.writeText below s piece m = (ok, s', told.2) := by
  intro told
  let taken := fun m =>
    (if (below s piece m).1 then Except.ok () else .error (), (below s piece m).2)
  have here : taken (m.enter .charOutput).2 = (if ok then .ok () else .error (), s',
      (m.enter .charOutput).2) := by simp only [taken, came]
  have whole := p.around_eq .charOutput (fun _ => ()) taken (fun _ _ => .text piece) here
  have answer : (Except.bind (told.1.mapError fun _ => ()) fun _ =>
      (if ok then Except.ok () else .error ())).isOk = ok := by
    cases ok with
    | false => rfl
    | true =>
      by_cases idle : m.depth.depth .charOutput = 0 <;> simp only [told, Notice.heard, idle] <;> rfl
  show ((p.around .charOutput (fun _ => ()) taken (fun _ _ => .text piece) m).1.isOk,
    (p.around .charOutput (fun _ => ()) taken (fun _ _ => .text piece) m).2) = (ok, s', told.2)
  rw [whole]
  exact Prod.ext answer rfl

/-- An outermost read of a stream that leaves the monitor alone. -/
theorem read_outermost {below : σ → Nat → Monitor → Answer Bytes σ} {n : Nat} {bytes : Bytes}
    (idle : m.depth.depth .byteInput = 0)
    (came : below s n (m.enter .byteInput).2 = (.ok bytes, s', (m.enter .byteInput).2)) :
    p.read below s n m =
      (((p.notify m (.ofRead n bytes)).1.mapError .blocked).map fun _ => bytes, s',
        (p.notify m (.ofRead n bytes)).2) := by
  have whole := p.read_eq came
  rw [Notice.heard, if_pos idle] at whole
  exact whole

/-- A write answers what the stream below answers, since nothing that is told of it can block. -/
theorem write_answered (below : σ → Bytes → Monitor → Answer Nat σ) {bytes : Bytes}
    {result : Except Fault Nat} (came : ∀ m, below s bytes m = (result, s', m)) (m : Monitor) :
    ∃ m', p.write below s bytes m = (result, s', m') := by
  refine ⟨_, (p.write_eq (came _)).trans (Prod.ext (?_ : Except.bind _ _ = result) rfl)⟩
  cases result with
  | error f => rfl
  | ok n => by_cases idle : m.depth.depth .byteOutput = 0 <;> simp only [Notice.heard, idle] <;> rfl

end

end Probe
end Turnstile.Capture
