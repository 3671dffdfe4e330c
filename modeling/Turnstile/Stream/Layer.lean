import Turnstile.Capture.Monitor
import Turnstile.Stream.Fault
/-!
# Instrumented layers

What all instrumented calls have in common: a guard is held around the call below, and if it is the
outermost call of its kind, the context attached to the layer is told what came of it. `around` is that
call, for any stream below; the functions after it are the calls that layers offer.
-/
namespace Turnstile.Stream

open Capture

/-- What an operation on a stream gives: its result, the stream and the monitor after it. -/
abbrev Answer (α σ : Type) := Except Fault α × σ × Monitor

/-- What a context is told of a call. -/
inductive Notice
  | nothing
  /-- These bytes streamed by. -/
  | bytes (bytes : Bytes)
  /-- This text streamed by. -/
  | text (s : String)
  /-- The stream has ended, and its body is to be recorded. -/
  | ended
deriving DecidableEq

namespace Notice

/-- What is told of a read of at most `n` bytes: where nothing came of one with room for something, the
stream has ended. -/
def ofRead (n : Nat) (bytes : Bytes) : Notice :=
  if !bytes.isEmpty then .bytes bytes else if n = 0 then .nothing else .ended

/-- What is told of a line that was appended to a text. -/
def ofLine (before : String) (n : Nat) (after : String) : Notice :=
  if n = 0 then .ended else .text (String.ofList (after.toList.drop before.length))

end Notice
end Turnstile.Stream

namespace Turnstile.Capture.Probe

open Policy Turnstile.Stream

/-- Tells the attached context of a call. -/
def notify (p : Probe) (m : Monitor) : Notice → Except Verdict (Option Finish) × Monitor
  | .nothing => (.ok none, m)
  | .bytes bytes => (.ok none, p.record m (·.writeBytes bytes))
  | .text s => (.ok none, p.record m (·.writeText s))
  | .ended => p.finalize m

/-- A call of a kind, through a layer, to what is below it. -/
def around {ε α σ : Type} (p : Probe) (kind : StreamKind) (blocked : Verdict → ε)
    (below : Monitor → Except ε α × σ × Monitor) (notice : α → σ → Notice) (m : Monitor) :
    Except ε α × σ × Monitor :=
  let (guard, m) := m.enter kind
  match below m with
  | (.error f, s, m) => (.error f, s, m.leave guard)
  | (.ok a, s, m) =>
    if guard.outermost then
      match p.notify m (notice a s) with
      | (.error v, m) => (.error (blocked v), s, m.leave guard)
      | (.ok _, m) => (.ok a, s, m.leave guard)
    else (.ok a, s, m.leave guard)

section Calls

variable {σ : Type} (p : Probe)

def read (below : σ → Nat → Monitor → Answer Bytes σ) (s : σ) (n : Nat) (m : Monitor) :
    Answer Bytes σ :=
  p.around .byteInput .blocked (below s n) (fun bytes _ => .ofRead n bytes) m

/-- Appends the next line to a text, which it gives beside the stream. -/
def readLine (below : σ → String → Except Fault Nat × String × σ) (s : σ) (line : String)
    (m : Monitor) : Answer Nat (String × σ) :=
  p.around .charInput .blocked (fun m => ((below s line).1, (below s line).2, m))
    (fun n after => .ofLine line n after.1) m

/-- One write. Gives how many bytes were taken. -/
def write (below : σ → Bytes → Monitor → Answer Nat σ) (s : σ) (bytes : Bytes) (m : Monitor) :
    Answer Nat σ :=
  p.around .byteOutput .blocked (below s bytes) (fun n _ => .bytes (bytes.take n)) m

/-- Writes a piece of text, and tells whether that was possible. -/
def writeText (below : σ → String → Monitor → Bool × σ × Monitor) (s : σ) (piece : String)
    (m : Monitor) : Bool × σ × Monitor :=
  let taken := fun m =>
    let (ok, s, m) := below s piece m
    (if ok then .ok () else .error (), s, m)
  let (result, s, m) := p.around .charOutput (fun _ => ()) taken (fun _ _ => .text piece) m
  (result.isOk, s, m)

/-- Flushes and has the body recorded; a flush that fails leaves it open. -/
def finish (flush : σ → Except Fault Unit × σ) (s : σ) (m : Monitor) : Answer (Option Finish) σ :=
  match flush s with
  | (.error f, s) => (.error f, s, m)
  | (.ok _, s) =>
    let (result, m) := p.finalize m
    (result.mapError .blocked, s, m)

end Calls
end Turnstile.Capture.Probe
