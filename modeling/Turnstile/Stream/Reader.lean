import Turnstile.Stream.Layer
/-!
# Readers

A reader is a script at the bottom with any number of layers over it. An instrumented layer passes
every read on; where it is the outermost call it shows the bytes to its context, and at the end of the
stream it has the body recorded. `read` is one read, `readToEnd` reads on until the stream ends.
-/
namespace Turnstile.Stream

open Capture

/-- What a stream below does next. -/
inductive Step
  /-- These bytes arrive. -/
  | chunk (bytes : Bytes)
  | fault (f : Fault)
deriving DecidableEq

/-- What a stream below does, step by step; then it stays at its end. -/
abbrev Script := List Step

namespace Script

/-- One read of at most `n` bytes. It takes from the first step only; what does not fit stays. -/
def read (n : Nat) : Script → Except Fault Bytes × Script
  | [] => (.ok [], [])
  | .fault f :: rest => if n = 0 then (.ok [], .fault f :: rest) else (.error f, rest)
  | .chunk bytes :: rest =>
    if n = 0 then (.ok [], .chunk bytes :: rest)
    else
      let left := bytes.drop n
      (.ok (bytes.take n), if left.isEmpty then rest else .chunk left :: rest)

/-- How many reads of at least one byte it takes at most to come to the end. -/
def length : Script → Nat
  | [] => 0
  | .chunk bytes :: rest => bytes.length + 1 + length rest
  | .fault _ :: rest => length rest + 1

end Script

/-- A reader under `depth` layers. -/
inductive Reader : Nat → Type
  /-- A stream below, without layers. -/
  | script (s : Script) : Reader 0
  /-- An instrumented layer. -/
  | probed {depth : Nat} (p : Probe) (inner : Reader depth) : Reader (depth + 1)
  /-- A layer that fills its buffer byte by byte. -/
  | single {depth : Nat} (inner : Reader depth) : Reader (depth + 1)

/-- At most `n` reads of one byte, until one gives nothing. A fault drops what was read. -/
def readSingly {σ : Type} (read : σ → Nat → Monitor → Answer Bytes σ) :
    Nat → Bytes → σ → Monitor → Answer Bytes σ
  | 0, done, s, m => (.ok done.reverse, s, m)
  | n + 1, done, s, m =>
    match read s 1 m with
    | (.error f, s, m) => (.error f, s, m)
    | (.ok [], s, m) => (.ok done.reverse, s, m)
    | (.ok (b :: _), s, m) => readSingly read n (b :: done) s m

namespace Reader

def read : {depth : Nat} → Reader depth → Nat → Monitor → Answer Bytes (Reader depth)
  | 0, .script s, n, m =>
    let (result, s) := s.read n
    (result, .script s, m)
  | _ + 1, .single inner, n, m =>
    let (result, inner, m) := readSingly (fun r => r.read) n [] inner m
    (result, .single inner, m)
  | _ + 1, .probed p inner, n, m =>
    let (result, inner, m) := p.read (fun r => r.read) inner n m
    (result, .probed p inner, m)

def bottom : {depth : Nat} → Reader depth → Script
  | 0, .script s => s
  | _ + 1, .single inner => inner.bottom
  | _ + 1, .probed _ inner => inner.bottom

/-- The instrumented layers, the outermost first. -/
def probes : {depth : Nat} → Reader depth → List Probe
  | 0, .script _ => []
  | _ + 1, .single inner => inner.probes
  | _ + 1, .probed p inner => p :: inner.probes

def inner {depth : Nat} : Reader (depth + 1) → Reader depth
  | .single inner => inner
  | .probed _ inner => inner

/-- How many reads of at least one byte it takes at most to come to the end. -/
def length {depth : Nat} (r : Reader depth) : Nat := r.bottom.length

end Reader

/-! ## Reading to the end -/

/-- The buffer of a reader that reads to the end: how much it holds, how much room it has, and the
most that is asked for at once. -/
structure Room where
  held : Nat
  capacity : Nat
  most : Nat

namespace Room

def none : Room := ⟨0, 0, 8192⟩

/-- The smallest capacity, at least doubled, that holds `needed`. -/
def grown (capacity needed : Nat) : Nat := max 8 (max (2 * capacity) needed)

/-- The room with space for 32 bytes at least. -/
def widened (room : Room) : Room :=
  if room.capacity < room.held + 32 then
    { room with capacity := grown room.capacity (room.held + 32) }
  else room

/-- How much is asked for. -/
def request (room : Room) : Nat := min (room.capacity - room.held) room.most

/-- The room after `n` bytes came of those asked for; a full answer doubles the most. -/
def filled (room : Room) (n : Nat) : Room :=
  { room with
    held := room.held + n
    most := if room.most ≤ room.request && n = room.request then 2 * room.most else room.most }

/-- The room after a first probe of 32 bytes gave `n`. -/
def probed (room : Room) (n : Nat) : Room :=
  { room with
    held := room.held + n
    capacity :=
      if room.held + n ≤ room.capacity then room.capacity
      else grown room.capacity (room.held + n) }

end Room

/-- Reads on until a read gives nothing or fails; what was interrupted is tried again. -/
def readOn {σ : Type} (read : σ → Nat → Monitor → Answer Bytes σ) :
    Nat → Room → Bytes → σ → Monitor → Except Fault Unit × Bytes × σ × Monitor
  | 0, _, done, s, m => (.ok (), done, s, m)
  | fuel + 1, room, done, s, m =>
    let room := room.widened
    match read s room.request m with
    | (.error f, s, m) =>
      if f.isTransient then readOn read fuel room done s m else (.error f, done, s, m)
    | (.ok [], s, m) => (.ok (), done, s, m)
    | (.ok (b :: bs), s, m) =>
      readOn read fuel (room.filled (bs.length + 1)) (bs.reverse ++ b :: done) s m

/-- Reads to the end: a probe of 32 bytes first, then as much as there is room for. -/
def readAll {σ : Type} (read : σ → Nat → Monitor → Answer Bytes σ) :
    Nat → σ → Monitor → Except Fault Unit × Bytes × σ × Monitor
  | 0, s, m => (.ok (), [], s, m)
  | fuel + 1, s, m =>
    match read s 32 m with
    | (.error f, s, m) => if f.isTransient then readAll read fuel s m else (.error f, [], s, m)
    | (.ok [], s, m) => (.ok (), [], s, m)
    | (.ok bytes, s, m) =>
      let (result, done, s, m) :=
        readOn read fuel (Room.none.probed bytes.length) bytes.reverse s m
      (result, done.reverse, s, m)

/-- Reads to the end of a reader. Gives the bytes that arrived, also before a fault. -/
def Reader.readToEnd {depth : Nat} (r : Reader depth) (m : Monitor) :
    Except Fault Unit × Bytes × Reader depth × Monitor :=
  readAll (fun r => r.read) (r.length + 1) r m

end Turnstile.Stream
