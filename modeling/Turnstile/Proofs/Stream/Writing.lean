import Turnstile.Proofs.Stream.Traffic
import Turnstile.Stream.Writer
/-!
# What is taken is recorded

A layer over any stream that is written to, bytes or text: what its context is shown is what the stream took,
however little that was of what was offered, and the first `finish` whose flush succeeds, and nothing else, has
it recorded (`written_recorded`).
-/
namespace Turnstile.Stream

open Capture

/-! ## Bytes -/

/-- The bytes that a write takes of those it is offered. -/
def accepted (bytes : Bytes) : Except Fault Nat → Bytes
  | .ok n => bytes.take n
  | .error _ => []

/-- Any stream below a layer that bytes are written to, with an account of what it took. -/
structure Drain (σ : Type) where
  write : σ → Bytes → Except Fault Nat × σ
  flush : σ → Except Fault Unit × σ
  /-- All it has taken, by what it answered to the writes. -/
  taken : σ → Bytes
  /-- No more is taken than is offered. -/
  fits : ∀ s bytes n, (write s bytes).1 = .ok n → n ≤ bytes.length
  takes : ∀ s bytes, taken (write s bytes).2 = taken s ++ accepted bytes (write s bytes).1
  keeps : ∀ s, taken (flush s).2 = taken s

/-- A sink as a stream below. -/
def Sink.drain : Drain Sink where
  write := write
  flush := flush
  taken := fun s => s.taken.toList
  fits := by
    intro s bytes n came
    rw [write] at came
    split at came <;> cases came
    · exact Nat.le_refl _
    · exact Nat.min_le_right ..
  takes := by
    intro s bytes
    rw [write]
    split <;> simp [accepted, take]
  keeps := by
    intro s
    rw [flush]
    split <;> rfl

/-- A call on a layer that bytes are written to. -/
inductive WriterCall
  | write (bytes : Bytes)
  /-- Writes all bytes, by so many writes at most. -/
  | writeAll (bytes : Bytes) (attempts : Nat)
  | flush
  | finish

namespace Drain

variable {σ : Type} (src : Drain σ)

/-- One write, which leaves the monitor alone. -/
def lift (s : σ) (bytes : Bytes) (m : Monitor) : Answer Nat σ :=
  let (result, s) := src.write s bytes
  (result, s, m)

/-- Bytes that are written through a layer. A `finish` ends the body if its flush succeeds. -/
def traffic : Traffic σ WriterCall UInt8 where
  call := fun p (s, m) call =>
    match call with
    | .write bytes => (p.write src.lift s bytes m).2
    | .writeAll bytes attempts => (writeOn (p.write src.lift) attempts bytes s m).2
    | .flush => ((src.flush s).2, m)
    | .finish => (p.finish src.flush s m).2
  Ends := fun s call =>
    match call with
    | .finish => (src.flush s).1 = .ok ()
    | _ => False
  body := src.taken

instance (s : σ) : (call : WriterCall) → Decidable (src.traffic.Ends s call)
  | .finish => inferInstanceAs (Decidable ((src.flush s).1 = .ok ()))
  | .write _ | .writeAll .. | .flush => .isFalse id

variable {src} {p : Probe} {m : Monitor} {i : Nat}

/-- An outermost write shows the context what the stream took. -/
theorem write_shown (src : Drain σ) (listens : p.Listens m i .byteOutput) (s : σ) (bytes : Bytes) :
    src.traffic.Shown ContextStep.asBytes i (s, m) (p.write src.lift s bytes m).2 := by
  have whole : p.write src.lift s bytes m = _ := p.write_eq rfl
  have taken : src.traffic.body (src.write s bytes).2 = _ := src.takes s bytes
  rw [whole]
  simp only [listens.idle]
  cases came : (src.write s bytes).1 with
  | error f =>
    rw [came] at taken
    exact ⟨[], by simp, taken, rfl⟩
  | ok n =>
    rw [came] at taken
    refine ⟨[.writeBytes (bytes.take n)], by simp [ContextStep.isCapture], ?_, ?_⟩
    · rw [List.flatMap_singleton]
      exact taken
    · exact p.notify_attached listens.here (.bytes (bytes.take n))

/-- What is written until all is taken shows the context what the stream took, also if it fails in the end. -/
theorem writeOn_shown (src : Drain σ) (listens : p.Listens m i .byteOutput) (attempts : Nat) (bytes : Bytes)
    (s : σ) :
    src.traffic.Shown ContextStep.asBytes i (s, m) (writeOn (p.write src.lift) attempts bytes s m).2 := by
  induction attempts generalizing bytes s m with
  | zero => cases bytes <;> exact .refl (s, m)
  | succ attempts ih =>
    cases bytes with
    | nil => exact .refl (s, m)
    | cons b bs =>
      have first := src.write_shown listens s (b :: bs)
      rcases came : p.write src.lift s (b :: bs) m with ⟨result, s', m'⟩
      rw [came] at first
      have again := fun bytes => first.trans (ih (first.listens listens) bytes s')
      rw [writeOn, came]
      split
      · rename_i eq
        cases eq
        split
        · exact again _
        · exact first
      · rename_i eq
        cases eq
        exact first
      · rename_i eq
        cases eq
        exact again _

/-- A flush that fails leaves the monitor as it is, also within a `finish`. -/
theorem finish_failed (src : Drain σ) (p : Probe) {s : σ} {f : Fault} (failed : (src.flush s).1 = .error f)
    (m : Monitor) : p.finish src.flush s m = (.error f, (src.flush s).2, m) := by
  rcases came : src.flush s with ⟨result, s'⟩
  rw [came] at failed
  cases failed
  rw [Probe.finish, came]

theorem finish_flushed (src : Drain σ) (p : Probe) {s : σ} (flushed : (src.flush s).1 = .ok ()) (m : Monitor) :
    (p.finish src.flush s m).2 = ((src.flush s).2, (p.finalize m).2) := by
  rcases came : src.flush s with ⟨result, s'⟩
  rw [came] at flushed
  cases flushed
  rw [Probe.finish, came]

theorem tells (src : Drain σ) (p : Probe) : src.traffic.Tells p .byteOutput ContextStep.asBytes where
  goesOn := by
    rintro i ⟨s, m⟩ call listens goesOn
    have flushed : src.traffic.Shown ContextStep.asBytes i (s, m) ((src.flush s).2, m) :=
      ⟨[], by simp, (src.keeps s).trans (List.append_nil _).symm, rfl⟩
    cases call with
    | write bytes => exact src.write_shown listens s bytes
    | writeAll bytes attempts => exact src.writeOn_shown listens attempts bytes s
    | flush => exact flushed
    | finish =>
      cases came : (src.flush s).1 with
      | ok done => exact absurd came goesOn
      | error f =>
        have left : src.traffic.call p (s, m) .finish = ((src.flush s).2, m) :=
          congrArg Prod.snd (src.finish_failed p came m)
        rw [left]
        exact flushed
  ends := by
    rintro i ⟨s, m⟩ call listens ends
    cases call with
    | finish =>
      have left : src.traffic.call p (s, m) .finish = _ := src.finish_flushed p ends m
      rw [left]
      exact p.notify_attached listens.here .ended
    | write | writeAll | flush => cases ends

end Drain

/-! ## Text -/

/-- Any stream below a layer that text is written to, with an account of the pieces it took. -/
structure TextDrain (σ : Type) where
  write : σ → String → Bool × σ
  /-- All it has taken, by what it answered to the writes. -/
  taken : σ → String
  takes : ∀ s piece, taken (write s piece).2 = if (write s piece).1 then taken s ++ piece else taken s

/-- A sink for text as a stream below. -/
def TextSink.drain : TextDrain TextSink where
  write := write
  taken := text
  takes := by
    intro s piece
    rw [write]
    split
    · split <;> rfl
    · rfl

/-- A call on a layer that text is written to. -/
inductive TextCall
  | write (piece : String)
  | finish

namespace TextDrain

variable {σ : Type} (src : TextDrain σ)

/-- One write, which leaves the monitor alone. -/
def lift (s : σ) (piece : String) (m : Monitor) : Bool × σ × Monitor :=
  let (ok, s) := src.write s piece
  (ok, s, m)

/-- Text that is written through a layer. Every `finish` ends the body. -/
def traffic : Traffic σ TextCall Char where
  call := fun p (s, m) call =>
    match call with
    | .write piece => (p.writeText src.lift s piece m).2
    | .finish => (s, (p.finalize m).2)
  Ends := fun _ call => call = .finish
  body := fun s => (src.taken s).toList

theorem tells (p : Probe) (charset : Charset) :
    src.traffic.Tells p .charOutput (ContextStep.asChars charset) where
  goesOn := by
    rintro i ⟨s, m⟩ call listens goesOn
    cases call with
    | finish => exact absurd rfl goesOn
    | write piece =>
      have whole : p.writeText src.lift s piece m = _ := p.writeText_eq rfl
      have left : src.traffic.call p (s, m) (.write piece) = _ := congrArg Prod.snd whole
      have taken := congrArg String.toList (src.takes s piece)
      rw [left]
      simp only [listens.idle]
      cases ok : (src.write s piece).1 with
      | false =>
        rw [ok] at taken
        exact ⟨[], by simp, taken.trans (List.append_nil _).symm, rfl⟩
      | true =>
        rw [ok] at taken
        refine ⟨[.writeText piece], by simp [ContextStep.isCapture], ?_, ?_⟩
        · rw [List.flatMap_singleton]
          exact taken.trans String.toList_append
        · exact p.notify_attached listens.here (.text piece)
  ends := by
    rintro i ⟨s, m⟩ call listens rfl
    exact p.notify_attached listens.here .ended

end TextDrain

/-! ## Bytes and text -/

/-- Through a layer over any stream that bytes are written to, what the stream took before the first `finish` whose
flush succeeds is what is recorded, once, also what it took of a write that failed in the end; a `finish` whose flush
fails changes nothing. Of text, what is recorded is the pieces that the stream took before the first `finish`. -/
theorem written_recorded (p : Probe) {m : Monitor} {i capacity : Nat} {c : Context} {σ : Type} :
    (p.Awaits m i .byteOutput c → c.buffer = .bytes (.empty capacity c.charset) → ∀ (src : Drain σ) (s : σ),
      src.traffic.Records p (s, m) c (fun bytes => c.charset.decode (bytes.take capacity)) ∧
      ∀ s m f, (src.flush s).1 = .error f → p.finish src.flush s m = (.error f, (src.flush s).2, m)) ∧
    (p.Awaits m i .charOutput c → c.buffer = .chars (.empty capacity) → ∀ (src : TextDrain σ) (s : σ),
      src.traffic.Records p (s, m) c fun cs => String.ofList (cs.take capacity)) := by
  constructor
  · intro awaits room src s
    refine ⟨Traffic.recorded (src.tells p) awaits fun steps => ?_, fun s m f failed => src.finish_failed p failed m⟩
    rw [room]
    rfl
  · intro awaits room src s
    refine Traffic.recorded (src.tells p c.charset) awaits fun steps => ?_
    rw [room]
    rfl

/-- Of six bytes five are taken, three of them by a write that fails, and the first four are recorded by the second
`finish`; of three pieces of text the second is refused. -/
theorem written_recorded_past_faults :
    let m := (Monitor.start .default .empty ⟨none, 0⟩).newSpan.2
    let p : StreamKind → Probe := fun kind => ⟨m.newResource.1, ⟨kind, .response⟩⟩
    let c : BodyBuffer → Context := fun buffer => ⟨0, "body", buffer, .latin1, .response, false⟩
    let attached : StreamKind → BodyBuffer → Monitor := fun kind buffer =>
      (m.attachNew (p kind).store (p kind).resource (c buffer)).2
    let sink : Sink := ⟨[.upTo 1, .upTo 2, .fault (.failed .brokenPipe)], [some (.failed .timedOut)], #[]⟩
    (Sink.drain.traffic.run (p .byteOutput) (sink, attached .byteOutput (.bytes (.empty 4 .latin1)))
      [.writeAll [97, 98, 99, 100] 9, .finish, .write [120, 121], .flush, .finish, .write [122], .finish]).2.span 0 =
        ⟨#[("body", "abcx")]⟩ ∧
    (TextSink.drain.traffic.run (p .charOutput) (⟨some 3, ""⟩, attached .charOutput (.chars (.empty 4)))
      [.write "ab", .write "cde", .write "c", .finish, .finish]).2.span 0 = ⟨#[("body", "abc")]⟩ := by
  intro m p c attached sink
  constructor
  · have awaits : (p .byteOutput).Awaits (attached .byteOutput (.bytes (.empty 4 .latin1))) 0 .byteOutput
        (c (.bytes (.empty 4 .latin1))) := ⟨⟨rfl, rfl⟩, rfl, by decide, rfl⟩
    have records := ((written_recorded (p .byteOutput)).1 awaits rfl Sink.drain sink).1
    have unended : Sink.drain.traffic.Unended (p .byteOutput) (sink, attached .byteOutput (.bytes (.empty 4 .latin1)))
        [.writeAll [97, 98, 99, 100] 9, .finish, .write [120, 121], .flush] := by
      decide +kernel
    obtain ⟨streamed, taken, once⟩ := records.ended _ .finish [.write [122], .finish] unended rfl
    have five : streamed = [97, 98, 99, 120, 121] := (List.nil_append streamed).symm.trans (taken.symm.trans (by decide +kernel))
    subst five
    exact (once.span 0).trans (by decide +kernel)
  · have awaits : (p .charOutput).Awaits (attached .charOutput (.chars (.empty 4))) 0 .charOutput
        (c (.chars (.empty 4))) := ⟨⟨rfl, rfl⟩, rfl, by decide, rfl⟩
    have records := (written_recorded (p .charOutput)).2 awaits rfl TextSink.drain ⟨some 3, ""⟩
    obtain ⟨streamed, taken, once⟩ := records.ended [.write "ab", .write "cde", .write "c"] .finish [.finish]
      (by simp [Traffic.Unended, TextDrain.traffic]) rfl
    have three : streamed = ['a', 'b', 'c'] := (List.nil_append streamed).symm.trans (taken.symm.trans (by decide +kernel))
    subst three
    exact (once.span 0).trans (by decide +kernel)

end Turnstile.Stream
