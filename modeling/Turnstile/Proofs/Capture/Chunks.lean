import Turnstile.Capture.Context
import Turnstile.Proofs.Capture.Truncation
import Turnstile.Proofs.Text.Boundary
/-!
# Bodies in chunks

A buffer of bytes holds the same however a body is cut. A buffer of characters reads each chunk by itself, so
that what it holds is sure to be the same only if no chunk ends inside a character (`chunks_rendered`).
-/
namespace Turnstile

namespace Charset

open Text

variable {charset : Charset}

/-- Chunks none of which ends inside a character read as the whole does. -/
theorem flatMap_decodeChars {chunks : List Bytes}
    (boundaries : ∀ earlier chunk later, chunks = earlier ++ chunk :: later →
      charset.Boundary chunk later.flatten) :
    chunks.flatMap charset.decodeChars = charset.decodeChars chunks.flatten := by
  induction chunks with
  | nil => exact (decodeChars_nil charset).symm
  | cons chunk chunks ih =>
    have rest := ih fun earlier next later cut =>
      boundaries (chunk :: earlier) next later (congrArg (chunk :: ·) cut)
    rw [List.flatMap_cons, rest, List.flatten_cons, decodeChars_append (boundaries [] chunk chunks rfl)]

end Charset

namespace Capture

/-! ## Buffers -/

namespace CharBuffer

theorem foldl_writeChars (b : CharBuffer) (texts : List (List Char)) :
    (texts.foldl writeChars b).text.toList = (b.text.toList ++ texts.flatten).take b.capacity := by
  induction texts generalizing b with
  | nil => simp [b.toList_take]
  | cons cs texts ih =>
    have room : (b.writeChars cs).capacity = b.capacity := rfl
    rw [List.foldl_cons, ih, room, b.toList_writeChars, take_take_append, List.flatten_cons,
      List.append_assoc]

end CharBuffer

namespace BodyBuffer

/-- The buffer after chunks of a body, one after the other. -/
def writeChunks (b : BodyBuffer) (charset : Charset) (chunks : List Bytes) : BodyBuffer :=
  chunks.foldl (fun b chunk => b.writeBytes chunk charset) b

theorem writeChunks_bytes (b : ByteBuffer) (charset : Charset) (chunks : List Bytes) :
    (BodyBuffer.bytes b).writeChunks charset chunks = (BodyBuffer.bytes b).writeBytes chunks.flatten charset := by
  have each : (BodyBuffer.bytes b).writeChunks charset chunks = .bytes (chunks.foldl .write b) :=
    List.foldl_hom BodyBuffer.bytes fun _ _ => rfl
  rw [each, b.foldl_write]
  rfl

theorem writeChunks_chars (b : CharBuffer) (charset : Charset) (chunks : List Bytes) :
    (BodyBuffer.chars b).writeChunks charset chunks =
      .chars ((chunks.map charset.decodeChars).foldl .writeChars b) := by
  rw [List.foldl_map]
  exact List.foldl_hom BodyBuffer.chars fun _ _ => rfl

end BodyBuffer

namespace Context

/-- The context after chunks of a body, one after the other. -/
def writeChunks (c : Context) (chunks : List Bytes) : Context := chunks.foldl writeBytes c

/-- A context that records has in its buffer what the chunks leave there. -/
theorem writeChunks_of_open {c : Context} (isOpen : c.captured = false) (chunks : List Bytes) :
    c.writeChunks chunks = { c with buffer := c.buffer.writeChunks c.charset chunks } := by
  induction chunks generalizing c with
  | nil => rfl
  | cons chunk chunks ih =>
    have first : c.writeBytes chunk = { c with buffer := c.buffer.writeBytes chunk c.charset } := by
      rw [writeBytes, isOpen]
      rfl
    rw [writeChunks, List.foldl_cons, first]
    exact ih isOpen

end Context

/-! ## One write or many -/

/-- However a body is cut, a buffer of bytes ends up as after one write of the whole. A buffer of characters ends
up with the characters of each chunk by itself, as many as fit; what it shows is what one write of the whole shows
if no chunk ends inside a character. A context that records has in its buffer exactly this. -/
theorem chunks_rendered (charset : Charset) (chunks : List Bytes) :
    (∀ b : ByteBuffer,
      (BodyBuffer.bytes b).writeChunks charset chunks = (BodyBuffer.bytes b).writeBytes chunks.flatten charset) ∧
    (∀ b : CharBuffer,
      ((BodyBuffer.chars b).writeChunks charset chunks).render charset =
        String.ofList ((b.text.toList ++ chunks.flatMap charset.decodeChars).take b.capacity)) ∧
    ((∀ earlier chunk later, chunks = earlier ++ chunk :: later → charset.Boundary chunk later.flatten) →
      ∀ b : BodyBuffer, (b.writeChunks charset chunks).render charset =
        (b.writeBytes chunks.flatten charset).render charset) ∧
    ∀ c : Context, c.captured = false → c.charset = charset →
      c.writeChunks chunks = { c with buffer := c.buffer.writeChunks charset chunks } := by
  have chars : ∀ b : CharBuffer, ((BodyBuffer.chars b).writeChunks charset chunks).render charset =
      String.ofList ((b.text.toList ++ chunks.flatMap charset.decodeChars).take b.capacity) := by
    intro b
    rw [BodyBuffer.writeChunks_chars, List.flatMap_def, ← CharBuffer.foldl_writeChars]
    exact String.ofList_toList.symm
  refine ⟨fun b => BodyBuffer.writeChunks_bytes b charset chunks, chars, ?_, ?_⟩
  · rintro boundaries (b | b)
    · rw [BodyBuffer.writeChunks_bytes]
    · rw [chars, Charset.flatMap_decodeChars boundaries, ← CharBuffer.toList_writeChars]
      exact String.ofList_toList
  · rintro c isOpen rfl
    exact c.writeChunks_of_open isOpen chunks

theorem chunks_rendered_of_a_letter_and_a_flaw : ([[0xC3, 0xA9], [0xFF]] : List Bytes).flatten = [0xC3, 0xA9, 0xFF] ∧
    ((BodyBuffer.chars (.empty 4)).writeChunks .utf8 [[0xC3, 0xA9], [0xFF]]).render .utf8 = "é\uFFFD" := by
  obtain ⟨-, -, whole, -⟩ := chunks_rendered .utf8 [[0xC3, 0xA9], [0xFF]]
  refine ⟨rfl, (whole ?_ (.chars (.empty 4))).trans (by decide +kernel)⟩
  rintro (_ | ⟨_, _ | ⟨_, earlier⟩⟩) chunk later cut
  · cases cut
    exact Text.Utf8.boundary_encode ['é'] [0xFF]
  · cases cut
    exact ⟨[.flaw [0xFF]], [], by decide +kernel, rfl⟩
  · simp at cut

/-- A letter whose two bytes come in two chunks is not shown as the letter. -/
theorem torn_letter_shown_as_flaws : ¬ ∀ (b : BodyBuffer) (charset : Charset) (chunks : List Bytes),
    (b.writeChunks charset chunks).render charset = (b.writeBytes chunks.flatten charset).render charset := by
  intro same
  have shown := same (.chars (.empty 4)) .utf8 [[0xC3], [0xA9]]
  have parts : ((BodyBuffer.chars (.empty 4)).writeChunks .utf8 [[0xC3], [0xA9]]).render .utf8 = "\uFFFD\uFFFD" := by
    decide +kernel
  have whole : ((BodyBuffer.chars (.empty 4)).writeBytes [0xC3, 0xA9] .utf8).render .utf8 = "é" := by decide +kernel
  exact absurd (parts.symm.trans (shown.trans whole)) (by decide)

end Capture
end Turnstile
