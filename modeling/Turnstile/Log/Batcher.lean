import Turnstile.Log.Exporter
/-!
# Batches of records

Records are collected and exported together: when enough of them are pending, at every tick of a
clock, when asked to, and at the end. A batch whose export fails is dropped.
-/
namespace Turnstile.Log

/-- What the span log is told. -/
inductive Message
  | span (record : Record)
  /-- Export what is pending, and answer how many records went out. -/
  | flush
  /-- The clock ticks. -/
  | tick

/-- The span log at work. -/
structure Batcher where
  exporter : Exporter
  /-- The records that wait for the next export, in order. -/
  pending : List Record

namespace Batcher

/-- How many pending records force an export. -/
def limit : Nat := 64

/-- The span log over a file that was just opened. -/
def ofFile (file : LogFile) : Batcher := ⟨.ofFile file, []⟩

/-- Exports what is pending. Gives how many records went out. -/
def exportPending (b : Batcher) : Nat × Batcher :=
  let (count, exporter) := b.exporter.exportBatch b.pending
  (count.getD 0, ⟨exporter, []⟩)

/-- The span log after one more record. -/
def push (b : Batcher) (record : Record) : Batcher :=
  let b := { b with pending := b.pending ++ [record] }
  if b.pending.length < limit then b else b.exportPending.2

/-- Takes a message. A flush is answered with a count. -/
def receive (b : Batcher) : Message → Option Nat × Batcher
  | .span record => (none, b.push record)
  | .flush =>
    let (count, b) := b.exportPending
    (some count, b)
  | .tick => (none, b.exportPending.2)

/-- The span log after messages, with the answers to the flushes. -/
def run (b : Batcher) : List Message → List Nat × Batcher
  | [] => ([], b)
  | message :: rest =>
    let (answer, b) := b.receive message
    let (answers, b) := run b rest
    (answer.toList ++ answers, b)

/-- Ends the log. Gives how many records were exported in all. -/
def close (b : Batcher) : Nat × LogFile :=
  let b := b.exportPending.2
  (b.exporter.exported, b.exporter.file)

end Batcher
end Turnstile.Log
