import Turnstile.Stream.Reader
/-!
# Line readers

An instrumented reader of lines over a buffered stream. What was read of a line before a fault stays
if it is text; a line that is not text is taken from the stream and dropped.
-/
namespace Turnstile.Stream

open Policy Capture

/-- A stream read through a buffer. -/
structure Buffered where
  /-- What has been read and not been handed out. -/
  held : Bytes
  source : Script

namespace Buffered

/-- How much is read at once. -/
def bufferSize : Nat := 8192

/-- How many steps it takes at most to come to the end. -/
def length (b : Buffered) : Nat := b.held.length + 2 * b.source.length + 2

/-- Takes bytes up to and with the next line feed, or to the end of the stream. Gives those that
arrived before a fault, too. -/
def takeLine : Nat → Bytes → Buffered → Except Fault Unit × Bytes × Buffered
  | 0, done, b => (.ok (), done, b)
  | fuel + 1, done, b =>
    match b.held with
    | [] =>
      match b.source.read bufferSize with
      | (.error f, source) =>
        if f.isTransient then takeLine fuel done ⟨[], source⟩ else (.error f, done, ⟨[], source⟩)
      | (.ok [], source) => (.ok (), done, ⟨[], source⟩)
      | (.ok bytes, source) => takeLine fuel done ⟨bytes, source⟩
    | held =>
      match held.dropWhile (· ≠ 10) with
      | [] => takeLine fuel (done ++ held) ⟨[], b.source⟩
      | _ :: after => (.ok (), done ++ held.takeWhile (· ≠ 10) ++ [10], ⟨after, b.source⟩)

/-- Appends the next line to a text. The result counts the bytes taken; none are left at the end. -/
def readLine (b : Buffered) (line : String) : Except Fault Nat × String × Buffered :=
  let (result, bytes, b) := b.takeLine b.length []
  match Text.Utf8.decode? bytes, result with
  | some text, .ok _ => (.ok bytes.length, line ++ String.ofList text, b)
  | some text, .error f => (.error f, line ++ String.ofList text, b)
  | none, .ok _ => (.error .notText, line, b)
  | none, .error f => (.error f, line, b)

/-- Reads what is left, held bytes first. -/
def readToEnd (b : Buffered) (m : Monitor) : Except Fault Unit × Bytes × Buffered :=
  let (result, bytes, reader, _) := (Reader.script b.source).readToEnd m
  (result, b.held ++ bytes, ⟨[], reader.bottom⟩)

end Buffered

/-- An instrumented reader of lines. -/
structure LineReader where
  probe : Probe
  source : Buffered

namespace LineReader

/-- Appends the next line to a text and shows it to the context; at the end of the stream the body is
recorded. -/
def readLine (r : LineReader) (line : String) (m : Monitor) :
    Except Fault Nat × String × LineReader × Monitor :=
  let (result, (line, source), m) := r.probe.readLine Buffered.readLine r.source line m
  (result, line, { r with source := source }, m)

end LineReader
end Turnstile.Stream
