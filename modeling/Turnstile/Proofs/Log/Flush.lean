import Mathlib.Data.List.DropRight
import Turnstile.Proofs.Log.Batcher
/-!
# What waits for the next export

A full batch, a tick, a flush and the end of the log all export the same pending records. `unexported`
tells which these are from the messages alone, and `run_lossless` what each export does to the file.
-/
namespace Turnstile.Log

namespace Message

/-- Whether the message asks for an export and wants an answer. -/
def isFlush : Message → Bool
  | .flush => true
  | .span _ | .tick => false

/-- The records that wait for an export after one more message, where these have waited before. -/
def await (held : List Record) : Message → List Record
  | .span record => if held.length + 1 = Batcher.limit then [] else held ++ [record]
  | .flush | .tick => []

/-- The records received since the last export: by a full batch, a flush or a tick. -/
def unexported (messages : List Message) : List Record := messages.foldl await []

/-- The records received since the last flush or tick. -/
def latest (messages : List Message) : List Record :=
  (messages.rtakeWhile fun message => message.record?.isSome).filterMap record?

/-- All records received. -/
def records (messages : List Message) : List Record := messages.filterMap record?

theorem unexported_concat (messages : List Message) (message : Message) :
    unexported (messages ++ [message]) = message.await (unexported messages) := by
  rw [unexported, List.foldl_append]
  rfl

/-- Full batches apart, all that came after the last flush or tick waits. -/
theorem length_unexported (messages : List Message) :
    (unexported messages).length = (latest messages).length % Batcher.limit := by
  induction messages using List.reverseRecOn with
  | nil => rfl
  | append_singleton messages message ih =>
    rw [unexported_concat]
    cases message with
    | flush => simp [await, latest, record?]
    | tick => simp [await, latest, record?]
    | span record =>
      have grown : latest (messages ++ [.span record]) = latest messages ++ [record] := by
        simp [latest, record?]
      rw [grown, await]
      unfold Batcher.limit at ih ⊢
      split
      · simp only [List.length_nil, List.length_append, List.length_singleton]
        omega
      · simp only [List.length_append, List.length_singleton]
        omega

theorem unexported_short (messages : List Message) : (unexported messages).length < Batcher.limit := by
  rw [length_unexported]
  exact Nat.mod_lt _ (by decide)

/-- The records that wait are the last ones. -/
theorem unexported_suffix (messages : List Message) : unexported messages <:+ records messages := by
  induction messages using List.reverseRecOn with
  | nil => exact List.suffix_refl _
  | append_singleton messages message ih =>
    have grown : records (messages ++ [message]) = records messages ++ message.record?.toList := by
      cases carried : message.record? <;> simp [records, carried]
    rw [unexported_concat, grown]
    cases message with
    | flush => exact List.nil_suffix
    | tick => exact List.nil_suffix
    | span record =>
      rw [await]
      split
      · exact List.nil_suffix
      · exact List.suffix_append_self_iff.mpr ih

end Message

namespace Batcher

open Message

variable {b : Batcher} {file : LogFile}

theorem run_cons (b : Batcher) (message : Message) (rest : List Message) :
    b.run (message :: rest) = ((b.receive message).1.toList ++ ((b.receive message).2.run rest).1,
      ((b.receive message).2.run rest).2) := rfl

theorem run_append (b : Batcher) (first second : List Message) :
    b.run (first ++ second) =
      ((b.run first).1 ++ ((b.run first).2.run second).1, ((b.run first).2.run second).2) := by
  induction first generalizing b with
  | nil => rfl
  | cons message rest ih =>
    rw [List.cons_append, run_cons, ih, run_cons, List.append_assoc]

theorem receive_pending (short : b.pending.length < limit) (message : Message) :
    (b.receive message).2.pending = message.await b.pending := by
  cases message with
  | flush => rfl
  | tick => rfl
  | span record =>
    show (b.push record).pending = _
    rw [push, await]
    simp only [List.length_append, List.length_singleton]
    by_cases full : b.pending.length + 1 = limit
    · rw [if_pos full, if_neg (by omega)]
      rfl
    · rw [if_neg full, if_pos (by omega)]

/-- The pending records depend on the messages only, not on the file. -/
theorem run_pending (file : LogFile) (messages : List Message) :
    ((ofFile file).run messages).2.pending = unexported messages := by
  induction messages using List.reverseRecOn with
  | nil => rfl
  | append_singleton messages message ih =>
    have short : ((ofFile file).run messages).2.pending.length < limit := by
      rw [ih]
      exact unexported_short messages
    rw [run_append, unexported_concat, ← ih]
    exact receive_pending short message

/-- Between two messages the file holds all records but those that wait. -/
theorem run_exported (writable : file.Writable) (messages : List Message) :
    ∃ out, out ++ unexported messages = records messages ∧
      ((ofFile file).run messages).2.exporter.file.content = file.content ++ out.flatMap Record.line := by
  obtain ⟨out, all⟩ := unexported_suffix messages
  have kept := ((ofFile_keeps writable).run messages).kept
  have told : ([] : List Record) ++ messages.filterMap record? = out ++ unexported messages := all.symm
  rw [run_pending, told, List.flatMap_append, ← List.append_assoc] at kept
  exact ⟨out, all, List.append_cancel_right kept⟩

/-- Each flush has one answer, the answer to the next one after those to the flushes before it. -/
theorem length_answers (b : Batcher) (messages : List Message) :
    (b.run messages).1.length = messages.countP isFlush := by
  induction messages generalizing b with
  | nil => rfl
  | cons message rest ih =>
    rw [run_cons, List.length_append, ih, List.countP_cons]
    cases message <;> simp [receive, isFlush, Nat.add_comm]

/-- A flush exports what is pending, and tells how much that was. -/
theorem receive_flush (writable : file.Writable) (before : List Message) :
    let b := ((ofFile file).run before).2
    (b.receive .flush).1 = some (unexported before).length ∧
      (b.receive .flush).2.exporter.file.content =
        file.content ++ (records before).flatMap Record.line := by
  intro b
  have keeps := (ofFile_keeps writable).run before
  obtain ⟨written, out, content, -⟩ := exportPending_writable keeps.writable
  have answer : b.receive .flush = (some b.exportPending.1, b.exportPending.2) := rfl
  rw [answer, out]
  refine ⟨?_, ?_⟩
  · rw [run_pending]
  · show written.content = _
    rw [content, keeps.kept, records]
    rfl

/-- What a log that can be written makes of the messages it has until it is closed. -/
structure Lossless (file : LogFile) (messages : List Message) : Prop where
  /-- Every record is in the file once, in order, after what was there before. -/
  content : ((ofFile file).run messages).2.close.2.content =
    file.content ++ (records messages).flatMap Record.line
  total : ((ofFile file).run messages).2.close.1 = (records messages).length
  /-- Between any two messages no full batch is pending. -/
  short : ∀ before after, messages = before ++ after →
    ((ofFile file).run before).2.pending.length < limit
  /-- A flush is answered with the number of the records received since the last export. -/
  answered : ∀ before after, messages = before ++ .flush :: after →
    ((ofFile file).run messages).1[before.countP isFlush]? = some (unexported before).length
  /-- By the time of its answer all records received before it are in the file. -/
  flushed : ∀ before after, messages = before ++ .flush :: after →
    ((ofFile file).run (before ++ [.flush])).2.exporter.file.content =
      file.content ++ (records before).flatMap Record.line
  /-- There are no other answers. -/
  answers : ((ofFile file).run messages).1.length = messages.countP isFlush
  /-- It does not matter where flushes and ticks fall. -/
  alike : ∀ others, records others = records messages →
    ((ofFile file).run others).2.close.2.content = ((ofFile file).run messages).2.close.2.content ∧
      ((ofFile file).run others).2.close.1 = ((ofFile file).run messages).2.close.1

theorem run_lossless (writable : file.Writable) (messages : List Message) : Lossless file messages := by
  have closed : ∀ ms : List Message,
      ((ofFile file).run ms).2.close.2.content = file.content ++ (records ms).flatMap Record.line ∧
        ((ofFile file).run ms).2.close.1 = (records ms).length := by
    intro ms
    obtain ⟨content, -, total⟩ := ((ofFile_keeps writable).run ms).close
    exact ⟨content, total⟩
  refine ⟨(closed messages).1, (closed messages).2, ?_, ?_, ?_, length_answers _ _, ?_⟩
  · intro before after _
    rw [run_pending]
    exact unexported_short before
  · rintro before after rfl
    have answer := (receive_flush writable before).1
    rw [run_append, run_cons, answer]
    simp [← length_answers (ofFile file) before]
  · rintro before after -
    rw [run_append]
    exact (receive_flush writable before).2
  · intro others same
    rw [(closed others).1, (closed others).2, same, (closed messages).1, (closed messages).2]
    exact ⟨rfl, rfl⟩

/-- A flush right after a full batch has nothing to export, and one record later it has one. -/
theorem run_lossless_past_full_batch :
    let file : LogFile := ⟨[123, 125, 10], [.done, .done]⟩
    let record := Record.ofSpan default "GET /" .empty none
    let messages := List.replicate 64 (.span record) ++ [.flush, .span record, .flush]
    file.Writable ∧ ((ofFile file).run messages).1[0]? = some 0 ∧
      ((ofFile file).run messages).1[1]? = some 1 ∧ ((ofFile file).run messages).2.close.1 = 65 := by
  intro file record messages
  let full : List Message := List.replicate 64 (.span record)
  let more : List Message := full ++ [.flush, .span record]
  have writable : file.Writable := by simp [LogFile.Writable, file]
  have lossless : Lossless file messages := run_lossless writable messages
  have first := lossless.answered full [.span record, .flush] rfl
  have second := lossless.answered more [] rfl
  have none : full.countP isFlush = 0 ∧ (unexported full).length = 0 := by decide +kernel
  have one : more.countP isFlush = 1 ∧ (unexported more).length = 1 := by decide +kernel
  have all : (records messages).length = 65 := by decide +kernel
  rw [none.1, none.2] at first
  rw [one.1, one.2] at second
  exact ⟨writable, first, second, lossless.total.trans all⟩

end Batcher
end Turnstile.Log
