import Mathlib.Data.List.Forall2
import Turnstile.Proofs.Capture.Truncation
import Turnstile.Proofs.Text.Boundary
/-!
# Reading bytes back

Every text can be written in UTF-8 and in either UTF-16, and is read back from its bytes whatever follows
them, well-formed or not. The sets of one byte a character read each byte by itself (`decode_after_encode`).
-/
namespace Turnstile.Charset

open Text

/-- Every text has bytes, and these are read as the text in front of any others. -/
def ReadsBack (charset : Charset) : Prop :=
  ∀ s : String, ∃ bytes, charset.encode s = some bytes ∧ charset.decode bytes = s ∧
    ∀ rest, charset.decode (bytes ++ rest) = s ++ charset.decode rest

/-- Bytes can be cut anywhere. -/
def ReadsApart (charset : Charset) : Prop :=
  ∀ first rest, charset.decode (first ++ rest) = charset.decode first ++ charset.decode rest

theorem encodeChars_of_forall {charset : Charset} (total : ∀ c, ∃ bytes, charset.encodeChar c = some bytes)
    (cs : List Char) : ∃ bytes, charset.encodeChars cs = some bytes := by
  induction cs with
  | nil => exact ⟨[], rfl⟩
  | cons c cs ih =>
    obtain ⟨first, has⟩ := total c
    obtain ⟨rest, later⟩ := ih
    exact ⟨first ++ rest, encodeChars_cons.mpr ⟨first, rest, has, later, rfl⟩⟩

theorem readsBack {charset : Charset} (total : ∀ c, ∃ bytes, charset.encodeChar c = some bytes) :
    charset.ReadsBack := by
  intro s
  obtain ⟨bytes, encoded⟩ := encodeChars_of_forall total s.toList
  have before : ∀ rest, charset.decode (bytes ++ rest) = s ++ charset.decode rest := by
    intro rest
    rw [decode, decodeChars_encodeChars_append encoded, String.ofList_append, String.ofList_toList]
    rfl
  refine ⟨bytes, encoded, ?_, before⟩
  have nothing : charset.decode [] = "" := by rw [decode, decodeChars_nil, String.ofList_nil]
  rw [← List.append_nil bytes, before, nothing, String.append_empty]

theorem readsApart {charset : Charset} (anywhere : ∀ first rest, charset.Boundary first rest) :
    charset.ReadsApart := by
  intro first rest
  rw [decode, decodeChars_append (anywhere first rest), String.ofList_append]
  rfl

/-- The bytes of a text in UTF-8 are those it is held in. -/
theorem encode_utf8 (s : String) : Charset.utf8.encode s = some s.toByteArray.data.toList := by
  have each : s.toList.mapM Charset.utf8.encodeChar = some (s.toList.map String.utf8EncodeChar) :=
    List.mapM_pure
  have bytes : s.toByteArray = (s.toList.flatMap String.utf8EncodeChar).toByteArray :=
    String.utf8Encode_toList.symm
  rw [encode, each, bytes, List.data_toByteArray, List.flatMap_def]
  rfl

theorem toNat_ofByte (b : UInt8) : (Char.ofNat b.toNat).toNat = b.toNat := by
  have := b.toNat_lt
  exact Utf8.toNat_ofNat (.inl (by omega))

theorem decode_after_encode :
    (∀ s : String, Charset.utf8.encode s = some s.toByteArray.data.toList) ∧
    ReadsBack .utf8 ∧ ReadsBack .utf16be ∧ ReadsBack .utf16le ∧ ReadsApart .latin1 ∧ ReadsApart .ascii ∧
    (∀ bytes, (Charset.latin1.decode bytes).toList.map Char.toNat = bytes.map UInt8.toNat) ∧
    ∀ bytes, List.Forall₂ (fun b c => if 0x7F < b then c = '\uFFFD' else c.toNat = b.toNat)
      bytes (Charset.ascii.decode bytes).toList := by
  refine ⟨encode_utf8, readsBack fun _ => ⟨_, rfl⟩, readsBack fun _ => ⟨_, rfl⟩, readsBack fun _ => ⟨_, rfl⟩,
    readsApart fun _ _ => trivial, readsApart fun _ _ => trivial, fun bytes => ?_, fun bytes => ?_⟩
  · rw [decode, String.toList_ofList, decodeChars, List.map_map]
    exact List.map_congr_left fun b _ => toNat_ofByte b
  · rw [decode, String.toList_ofList, decodeChars, List.forall₂_map_right_iff, List.forall₂_same]
    intro b _
    by_cases beyond : 0x7F < b
    · have wide : ¬ b < 0x80 := by grind
      rw [if_pos beyond, asciiChar, if_neg wide]
      rfl
    · have plain : b < 0x80 := by grind
      rw [if_neg beyond, asciiChar, if_pos plain, toNat_ofByte]

end Turnstile.Charset
