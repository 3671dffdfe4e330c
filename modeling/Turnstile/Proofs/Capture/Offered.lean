import Mathlib.Data.List.Induction
import Turnstile.Proofs.Capture.Buffer
/-!
# Buffers over whole runs

A bounded buffer holds the first part of what it was offered since the last reset, in whatever way and in
whatever pieces that came, and it answers what it did with it (`run_keeps_first`).
-/
namespace Turnstile.Capture

namespace BufferStep

section

variable {text unit : Type} (units : text → List unit)

/-- What has been offered since the last reset, after another step. -/
def after (sofar : List unit) : BufferStep text unit → List unit
  | .write whole | .stream whole => sofar ++ units whole
  | .writeOne one => sofar ++ [one]
  | .reset => []

/-- What has been offered since the last reset. -/
def offered (steps : List (BufferStep text unit)) : List unit := steps.foldl (after units) []

/-- What a step is answered says what it did to the units that are held. A stream has its own answer. -/
def Answers (streamed : text → BufferReport) (capacity : Nat) (before now : List unit) (report : BufferReport) :
    BufferStep text unit → Prop
  | .write whole => ∃ n ≤ (units whole).length, report = .count n ∧ now = before ++ (units whole).take n
  | .writeOne one => report = .fitted true ∧ now = before ++ [one] ∨
      report = .fitted false ∧ now = before ∧ before.length = capacity
  | .stream whole => report = streamed whole
  | .reset => report = .nothing ∧ now = []

theorem take_after (n : Nat) (sofar : List unit) (step : BufferStep text unit) :
    (after units (sofar.take n) step).take n = (after units sofar step).take n := by
  cases step with
  | write whole | stream whole => exact take_take_append n sofar (units whole)
  | writeOne one => exact take_take_append n sofar [one]
  | reset => rfl

/-- If every step keeps what fits, so does a run. -/
theorem run_holds {β : Type} {capacity : β → Nat} {held : β → List unit} {step : β → BufferStep text unit → β}
    (same : ∀ b s, capacity (step b s) = capacity b)
    (holds : ∀ b s, held (step b s) = (after units (held b) s).take (capacity b))
    {b : β} (empty : held b = []) (steps : List (BufferStep text unit)) :
    capacity (steps.foldl step b) = capacity b ∧
      held (steps.foldl step b) = (offered units steps).take (capacity b) := by
  induction steps using List.reverseRecOn with
  | nil => exact ⟨rfl, by rw [List.foldl_nil, empty, offered, List.foldl_nil, List.take_nil]⟩
  | append_singleton steps last ih =>
    obtain ⟨room, sofar⟩ := ih
    rw [offered, List.foldl_append, List.foldl_append]
    refine ⟨(same _ last).trans room, (holds _ last).trans ?_⟩
    rw [room, sofar, take_after]
    rfl

end

/-- What holds of a buffer that has been offered some units. -/
structure Holds {unit : Type} (capacity : Nat) (offered held : List unit) (count remaining : Nat) : Prop where
  first : held = offered.take capacity
  counted : count = min offered.length capacity
  spare : count + remaining = capacity

end BufferStep

open BufferStep

namespace ByteBuffer

theorem bytes_step (b : ByteBuffer) (step : BufferStep Bytes UInt8) :
    (b.step step).2.bytes = (after id b.bytes step).take b.capacity := by
  cases step with
  | write bytes | stream bytes => exact b.bytes_write bytes
  | writeOne byte => exact b.bytes_write [byte]
  | reset => exact List.take_nil.symm

theorem capacity_step (b : ByteBuffer) (step : BufferStep Bytes UInt8) : (b.step step).2.capacity = b.capacity := by
  cases step <;> rfl

theorem step_answers (b : ByteBuffer) (step : BufferStep Bytes UInt8) :
    step.Answers id (.count ·.length) b.capacity b.bytes (b.step step).2.bytes (b.step step).1 := by
  have size : b.bytes.length = b.data.size := Array.length_toList
  cases step with
  | write bytes =>
    refine ⟨b.accepted bytes, Nat.min_le_left .., rfl, ?_⟩
    show (b.write bytes).bytes = _
    rw [bytes_write, List.take_append, b.bytes_take, size, accepted, Nat.min_comm, id, ← List.take_eq_take_min]
    rfl
  | writeOne byte =>
    have held : (b.write [byte]).bytes = b.bytes ++ [byte].take b.remaining := by
      rw [bytes_write, List.take_append, b.bytes_take, size]
      rfl
    cases left : b.remaining with
    | zero =>
      have full : b.bytes.length = b.capacity := by
        have within := b.bounded
        rw [remaining] at left
        omega
      refine .inr ⟨?_, ?_, full⟩
      · simp [step, accepted, left]
      · show (b.write [byte]).bytes = _
        rw [held, left, List.take_zero, List.append_nil]
    | succ n =>
      refine .inl ⟨?_, ?_⟩
      · simp [step, accepted, left]
      · show (b.write [byte]).bytes = _
        rw [held, left, List.take_succ_cons, List.take_nil]
  | stream bytes => rfl
  | reset => exact ⟨rfl, rfl⟩

theorem run_holds (capacity room : Nat) (charset : Charset) (steps : List (BufferStep Bytes UInt8)) :
    let b := (withRoom capacity room charset).run steps
    b.capacity = capacity ∧ Holds capacity (offered id steps) b.bytes b.data.size b.remaining := by
  intro b
  obtain ⟨same, first⟩ := BufferStep.run_holds id capacity_step bytes_step
    (b := withRoom capacity room charset) rfl steps
  have room : b.capacity = capacity := same
  have size : b.bytes.length = b.data.size := Array.length_toList
  refine ⟨room, first, ?_, ?_⟩
  · rw [← size, show b.bytes = _ from first, List.length_take, Nat.min_comm]
    rfl
  · have within := b.bounded
    rw [remaining, ← room]
    omega

end ByteBuffer

namespace CharBuffer

theorem writeChar_cases (b : CharBuffer) (c : Char) :
    (b.count = b.capacity ∧ b.writeChar c = (false, b)) ∨
    (b.count < b.capacity ∧ (b.writeChar c).1 = true ∧ (b.writeChar c).2.text = b.text.push c ∧
      (b.writeChar c).2.capacity = b.capacity) := by
  have within := b.bounded
  rw [writeChar]
  split
  · rename_i full
    rw [remaining] at full
    exact .inl ⟨by omega, rfl⟩
  · rename_i free
    rw [remaining] at free
    exact .inr ⟨by omega, rfl, rfl, rfl⟩

theorem capacity_step (b : CharBuffer) (step : BufferStep String Char) : (b.step step).2.capacity = b.capacity := by
  cases step with
  | write s | stream s | reset => rfl
  | writeOne c =>
    obtain ⟨-, none⟩ | ⟨-, -, -, same⟩ := b.writeChar_cases c
    · show (b.writeChar c).2.capacity = _
      rw [none]
    · exact same

theorem toList_step (b : CharBuffer) (step : BufferStep String Char) :
    (b.step step).2.text.toList = (after String.toList b.text.toList step).take b.capacity := by
  cases step with
  | write s | stream s => exact b.toList_writeChars s.toList
  | reset => exact List.take_nil.symm
  | writeOne c =>
    have length : b.text.toList.length = b.count := by rw [String.length_toList, b.counted]
    show (b.writeChar c).2.text.toList = (b.text.toList ++ [c]).take b.capacity
    obtain ⟨full, none⟩ | ⟨free, -, text, -⟩ := b.writeChar_cases c
    · rw [none, List.take_left' (length.trans full)]
    · have fits : (b.text.toList ++ [c]).length ≤ b.capacity := by
        rw [List.length_append, length, List.length_singleton]
        exact free
      rw [text, String.toList_push, List.take_of_length_le fits]

theorem step_answers (b : CharBuffer) (step : BufferStep String Char) :
    step.Answers String.toList (fun _ => .nothing) b.capacity b.text.toList (b.step step).2.text.toList
      (b.step step).1 := by
  have length : b.text.toList.length = b.count := by rw [String.length_toList, b.counted]
  cases step with
  | write s =>
    refine ⟨b.accepted s, ?_, rfl, ?_⟩
    · rw [accepted, fitting_eq]
      exact Nat.min_le_left ..
    · show (b.writeChars s.toList).text.toList = _
      rw [toList_writeChars, List.take_append, b.toList_take, length, accepted, fitting_eq, Nat.min_comm,
        ← List.take_eq_take_min]
      rfl
  | writeOne c =>
    show ((b.step (.writeOne c)).1 = _ ∧ (b.writeChar c).2.text.toList = _) ∨
      ((b.step (.writeOne c)).1 = _ ∧ (b.writeChar c).2.text.toList = _ ∧ _)
    obtain ⟨full, none⟩ | ⟨-, fitted, text, -⟩ := b.writeChar_cases c
    · refine .inr ⟨?_, ?_, length.trans full⟩
      · rw [step, none]
      · rw [none]
    · refine .inl ⟨?_, ?_⟩
      · exact congrArg BufferReport.fitted fitted
      · rw [text, String.toList_push]
  | stream s => rfl
  | reset => exact ⟨rfl, rfl⟩

theorem run_holds (capacity : Nat) (steps : List (BufferStep String Char)) :
    let b := (empty capacity).run steps
    b.capacity = capacity ∧ Holds capacity (offered String.toList steps) b.text.toList b.count b.remaining := by
  intro b
  obtain ⟨same, first⟩ := @BufferStep.run_holds _ _ String.toList _ CharBuffer.capacity (·.text.toList)
    (fun b step => (b.step step).2) capacity_step toList_step (empty capacity) rfl steps
  have room : b.capacity = capacity := same
  have length : b.text.toList.length = b.count := by rw [String.length_toList, b.counted]
  refine ⟨room, first, ?_, ?_⟩
  · rw [← length, show b.text.toList = _ from first, List.length_take, Nat.min_comm]
    rfl
  · have within := b.bounded
    rw [remaining, ← room]
    omega

/-- What is written of a text is cut off at a place between two of its characters. -/
theorem text_write (b : CharBuffer) (s : String) :
    (b.write s).text = b.text ++ (s.sliceTo (s.startPos.nextn b.remaining)).copy := by
  have cut := (s.splits_nextn_startPos b.remaining).copy_sliceTo_eq
  show b.text ++ String.ofList (fitting s.toList b.remaining).1 = _
  rw [cut, fitting_eq]

/-- What a buffer is like is settled by its capacity and its text. -/
theorem ext_text {b b' : CharBuffer} (room : b.capacity = b'.capacity) (text : b.text = b'.text) : b = b' := by
  have counts : b.count = b'.count := by rw [b.counted, b'.counted, text]
  cases b
  cases b'
  rw [mk.injEq]
  exact ⟨room, text, counts⟩

end CharBuffer

/-- A buffer holds exactly the first units of those it was offered since the last reset, as many as fit, and
says what it did with each step; one of characters is the same however the text was cut. -/
theorem run_keeps_first :
    (∀ capacity room charset (steps : List (BufferStep Bytes UInt8)),
      let b := (ByteBuffer.withRoom capacity room charset).run steps
      Holds capacity (offered id steps) b.bytes b.data.size b.remaining ∧
      ∀ step : BufferStep Bytes UInt8,
        step.Answers id (.count ·.length) capacity b.bytes (b.step step).2.bytes (b.step step).1) ∧
    ∀ capacity (steps : List (BufferStep String Char)),
      let b := (CharBuffer.empty capacity).run steps
      Holds capacity (offered String.toList steps) b.text.toList b.count b.remaining ∧
      b.count = b.text.length ∧
      (∀ s, (b.write s).text = b.text ++ (s.sliceTo (s.startPos.nextn b.remaining)).copy) ∧
      (∀ step : BufferStep String Char, step.Answers String.toList (fun _ => .nothing) capacity b.text.toList
        (b.step step).2.text.toList (b.step step).1) ∧
      ∀ recut, offered String.toList recut = offered String.toList steps →
        (CharBuffer.empty capacity).run recut = b := by
  refine ⟨fun capacity room charset steps => ?_, fun capacity steps => ?_⟩
  · intro b
    obtain ⟨same, holds⟩ := ByteBuffer.run_holds capacity room charset steps
    have answers := b.step_answers
    rw [show b.capacity = capacity from same] at answers
    exact ⟨holds, answers⟩
  · intro b
    obtain ⟨same, holds⟩ := CharBuffer.run_holds capacity steps
    have answers := b.step_answers
    rw [show b.capacity = capacity from same] at answers
    refine ⟨holds, b.counted, b.text_write, answers, fun recut alike => ?_⟩
    obtain ⟨same', holds'⟩ := CharBuffer.run_holds capacity recut
    refine CharBuffer.ext_text (same'.trans same.symm) (String.toList_injective ?_)
    rw [holds'.first, holds.first, alike]

end Turnstile.Capture
