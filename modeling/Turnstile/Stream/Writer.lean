import Turnstile.Stream.Reader
/-!
# Writers

A writer is a sink at the bottom with any number of layers over it. An instrumented layer shows its
context what the stream below took; `finish` flushes and has the body recorded. The last part is
instrumented writing of text.
-/
namespace Turnstile.Stream

open Policy Capture

/-- What a sink answers to a write. -/
inductive Intake
  /-- It takes at most so many bytes. -/
  | upTo (n : Nat)
  | fault (f : Fault)
deriving DecidableEq

/-- A sink: its next answers to writes and to flushes, and what it has taken. Then it takes
everything. -/
structure Sink where
  intakes : List Intake
  flushes : List (Option Fault)
  taken : Array UInt8

namespace Sink

def unlimited : Sink := ⟨[], [], #[]⟩

/-- The sink after it took the first `n` bytes. -/
def take (s : Sink) (n : Nat) (bytes : Bytes) : Sink :=
  { s with taken := s.taken ++ (bytes.take n).toArray }

/-- One write. Gives how many bytes were taken. -/
def write (s : Sink) (bytes : Bytes) : Except Fault Nat × Sink :=
  match s.intakes with
  | [] => (.ok bytes.length, s.take bytes.length bytes)
  | .fault f :: rest => (.error f, { s with intakes := rest })
  | .upTo n :: rest => (.ok (min n bytes.length), { s with intakes := rest }.take n bytes)

def flush (s : Sink) : Except Fault Unit × Sink :=
  match s.flushes with
  | [] => (.ok (), s)
  | none :: rest => (.ok (), { s with flushes := rest })
  | some f :: rest => (.error f, { s with flushes := rest })

end Sink

/-- A writer under `depth` layers. -/
inductive Writer : Nat → Type
  /-- A sink, without layers. -/
  | sink (s : Sink) : Writer 0
  /-- An instrumented layer. -/
  | probed {depth : Nat} (p : Probe) (inner : Writer depth) : Writer (depth + 1)
  /-- A layer that writes byte by byte. -/
  | single {depth : Nat} (inner : Writer depth) : Writer (depth + 1)

/-- Writes on until all bytes are taken; what was interrupted is tried again, and a write that takes
nothing is a fault. -/
def writeOn {σ : Type} (write : σ → Bytes → Monitor → Answer Nat σ) :
    Nat → Bytes → σ → Monitor → Answer Unit σ
  | _, [], s, m => (.ok (), s, m)
  | 0, _ :: _, s, m => (.ok (), s, m)
  | fuel + 1, b :: bs, s, m =>
    match write s (b :: bs) m with
    | (.error f, s, m) => if f.isTransient then writeOn write fuel (b :: bs) s m else (.error f, s, m)
    | (.ok 0, s, m) => (.error .nothingTaken, s, m)
    | (.ok n, s, m) => writeOn write fuel ((b :: bs).drop n) s m

/-- Writes each byte for itself, all of it. -/
def writeSingly {σ : Type} (writeByte : σ → UInt8 → Monitor → Answer Unit σ) :
    Bytes → σ → Monitor → Answer Unit σ
  | [], s, m => (.ok (), s, m)
  | b :: bs, s, m =>
    match writeByte s b m with
    | (.error f, s, m) => (.error f, s, m)
    | (.ok _, s, m) => writeSingly writeByte bs s m

namespace Writer

def bottom : {depth : Nat} → Writer depth → Sink
  | 0, .sink s => s
  | _ + 1, .single inner => inner.bottom
  | _ + 1, .probed _ inner => inner.bottom

/-- The instrumented layers, the outermost first. -/
def probes : {depth : Nat} → Writer depth → List Probe
  | 0, .sink _ => []
  | _ + 1, .single inner => inner.probes
  | _ + 1, .probed p inner => p :: inner.probes

def inner {depth : Nat} : Writer (depth + 1) → Writer depth
  | .single inner => inner
  | .probed _ inner => inner

/-- How many answers of the sink are fixed. -/
def length {depth : Nat} (w : Writer depth) : Nat := w.bottom.intakes.length

/-- One write. Gives how many bytes were taken. -/
def write : {depth : Nat} → Writer depth → Bytes → Monitor → Answer Nat (Writer depth)
  | 0, .sink s, bytes, m =>
    let (result, s) := s.write bytes
    (result, .sink s, m)
  | _ + 1, .single inner, bytes, m =>
    let writeByte := fun w b m => writeOn (fun w => w.write) (length w + 1) [b] w m
    let (result, inner, m) := writeSingly writeByte bytes inner m
    (result.map fun _ => bytes.length, .single inner, m)
  | _ + 1, .probed p inner, bytes, m =>
    let (result, inner, m) := p.write (fun w => w.write) inner bytes m
    (result, .probed p inner, m)

def writeAll {depth : Nat} (w : Writer depth) (bytes : Bytes) (m : Monitor) :
    Answer Unit (Writer depth) :=
  writeOn (fun w => w.write) (w.length + bytes.length + 1) bytes w m

/-- One flush, which goes through to the sink. -/
def flush : {depth : Nat} → Writer depth → Except Fault Unit × Writer depth
  | 0, .sink s =>
    let (result, s) := s.flush
    (result, .sink s)
  | _ + 1, .single inner =>
    let (result, inner) := inner.flush
    (result, .single inner)
  | _ + 1, .probed p inner =>
    let (result, inner) := inner.flush
    (result, .probed p inner)

/-- Flushes and has the body of the outermost layer recorded, if that is instrumented; a flush that
fails leaves it open. -/
def finish : {depth : Nat} → Writer depth → Monitor → Answer (Option Finish) (Writer depth)
  | _ + 1, .probed p inner, m =>
    let (result, inner, m) := p.finish (fun w => w.flush) inner m
    (result, .probed p inner, m)
  | _, w, m =>
    let (result, w) := w.flush
    (result.map fun _ => none, w, m)

end Writer

/-! ## Text -/

/-- A sink for text, which refuses a piece that would take it beyond a number of bytes. -/
structure TextSink where
  limit : Option Nat
  text : String

/-- Writes a piece of text, wholly or not at all. -/
def TextSink.write (s : TextSink) (piece : String) : Bool × TextSink :=
  let text := s.text ++ piece
  match s.limit with
  | some limit => if limit < text.utf8ByteSize then (false, s) else (true, { s with text := text })
  | none => (true, { s with text := text })

/-- Instrumented layers over a sink for text, the outermost first. -/
structure TextWriter where
  layers : List Probe
  sink : TextSink

/-- Writes a piece of text through the layers; the outermost call shows it to its context. -/
def writeText (layers : List Probe) (piece : String) (s : TextSink) (m : Monitor) :
    Bool × TextSink × Monitor :=
  match layers with
  | [] =>
    let (ok, s) := s.write piece
    (ok, s, m)
  | p :: inner => p.writeText (fun s piece m => writeText inner piece s m) s piece m

namespace TextWriter

def write (w : TextWriter) (piece : String) (m : Monitor) : Bool × TextWriter × Monitor :=
  let (ok, sink, m) := writeText w.layers piece w.sink m
  (ok, { w with sink := sink }, m)

/-- Writes pieces of text until one fails. -/
def writePieces (w : TextWriter) (m : Monitor) : List String → Bool × TextWriter × Monitor
  | [] => (true, w, m)
  | piece :: rest =>
    match w.write piece m with
    | (true, w, m) => writePieces w m rest
    | (false, w, m) => (false, w, m)

/-- Has the body of the outermost layer recorded. -/
def finish (w : TextWriter) (m : Monitor) : Except Verdict (Option Finish) × Monitor :=
  match w.layers with
  | [] => (.ok none, m)
  | p :: _ => p.finalize m

end TextWriter
end Turnstile.Stream
