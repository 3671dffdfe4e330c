import Turnstile.Log.Batcher
/-!
# The span log loses nothing

Where every append succeeds, what the file holds and what is pending are at all times the records that
came in, each of them once and in order. So it does not matter when batches go out.
-/
namespace Turnstile.Log

namespace LogFile

/-- Every append to the file succeeds. -/
def Writable (f : LogFile) : Prop := ∀ a ∈ f.appends, a = .done

theorem append_writable {f : LogFile} (writable : f.Writable) (bytes : Bytes) :
    ∃ g, f.append bytes = (true, g) ∧ g.content = f.content ++ bytes ∧ g.Writable := by
  obtain ⟨content, appends⟩ := f
  cases appends with
  | nil => exact ⟨_, rfl, rfl, writable⟩
  | cons a rest =>
    have first : a = .done := writable a List.mem_cons_self
    subst first
    exact ⟨_, rfl, rfl, fun later mem => writable later (List.mem_cons_of_mem _ mem)⟩

end LogFile

/-- The record that comes with a message. -/
def Message.record? : Message → Option Record
  | .span record => some record
  | .flush => none
  | .tick => none

namespace Batcher

/-- What holds of the span log once these records have come in over what the file held. -/
structure Keeps (content : Bytes) (records : List Record) (b : Batcher) : Prop where
  writable : b.exporter.file.Writable
  kept : b.exporter.file.content ++ b.pending.flatMap Record.line =
    content ++ records.flatMap Record.line
  /-- Each record has been counted, or is pending. -/
  counted : b.exporter.exported + b.pending.length = records.length

variable {content : Bytes} {records : List Record} {b : Batcher}

theorem ofFile_keeps {file : LogFile} (writable : file.Writable) :
    Keeps file.content [] (ofFile file) := ⟨writable, rfl, rfl⟩

/-- What is pending goes out whole, and is counted. -/
theorem exportPending_writable (writable : b.exporter.file.Writable) :
    ∃ written, b.exportPending =
        (b.pending.length, ⟨⟨written, b.exporter.exported + b.pending.length⟩, []⟩) ∧
      written.content = b.exporter.file.content ++ b.pending.flatMap Record.line ∧ written.Writable := by
  obtain ⟨⟨file, exported⟩, pending⟩ := b
  cases pending with
  | nil => exact ⟨file, rfl, (List.append_nil _).symm, writable⟩
  | cons first rest =>
    obtain ⟨written, appended, content', writable'⟩ :=
      LogFile.append_writable writable ((first :: rest).flatMap Record.line)
    refine ⟨written, ?_, content', writable'⟩
    simp only [Batcher.exportPending, Exporter.exportBatch, appended]
    rfl

/-- An export leaves nothing pending. -/
theorem Keeps.exportPending (keeps : Keeps content records b) :
    Keeps content records b.exportPending.2 ∧ b.exportPending.2.pending = [] := by
  obtain ⟨written, out, content', writable⟩ := exportPending_writable keeps.writable
  rw [out]
  refine ⟨⟨writable, ?_, keeps.counted⟩, rfl⟩
  rw [← keeps.kept, ← content']
  exact List.append_nil _

theorem Keeps.push (keeps : Keeps content records b) (record : Record) :
    Keeps content (records ++ [record]) (b.push record) := by
  have grown : Keeps content (records ++ [record])
      { b with pending := b.pending ++ [record] } := by
    refine ⟨keeps.writable, ?_, ?_⟩
    · simp only [List.flatMap_append, ← List.append_assoc, keeps.kept]
    · simp only [List.length_append, ← Nat.add_assoc, keeps.counted]
  rw [Batcher.push]
  split
  · exact grown
  · exact grown.exportPending.1

theorem Keeps.receive (keeps : Keeps content records b) (message : Message) :
    Keeps content (records ++ message.record?.toList) (b.receive message).2 := by
  cases message with
  | span record => exact keeps.push record
  | flush =>
    rw [Message.record?, Option.toList_none, List.append_nil]
    exact keeps.exportPending.1
  | tick =>
    rw [Message.record?, Option.toList_none, List.append_nil]
    exact keeps.exportPending.1

theorem Keeps.run (keeps : Keeps content records b) (messages : List Message) :
    Keeps content (records ++ messages.filterMap Message.record?) (b.run messages).2 := by
  induction messages generalizing b records with
  | nil =>
    rw [List.filterMap_nil, List.append_nil]
    exact keeps
  | cons message rest ih =>
    have later := ih (keeps.receive message)
    rw [List.append_assoc] at later
    have split : (message :: rest).filterMap Message.record? =
        message.record?.toList ++ rest.filterMap Message.record? := by
      cases carried : message.record? <;> simp [carried]
    rw [split]
    exact later

/-- In the end all records stand in the file, after what it held before. -/
theorem Keeps.close (keeps : Keeps content records b) :
    b.close.2.content = content ++ records.flatMap Record.line ∧ b.close.2.Writable ∧
      b.close.1 = records.length := by
  obtain ⟨last, nothing⟩ := keeps.exportPending
  have kept := last.kept
  have counted := last.counted
  rw [nothing] at kept counted
  refine ⟨?_, last.writable, counted⟩
  rw [← kept]
  exact (List.append_nil _).symm

end Batcher
end Turnstile.Log
