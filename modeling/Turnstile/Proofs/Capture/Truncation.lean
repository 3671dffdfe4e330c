import Turnstile.Proofs.Capture.Buffer
import Turnstile.Proofs.Text.Flaws
import Turnstile.Proofs.Text.Utf16
/-!
# Truncated bodies

A body that is cut off shows the characters that were captured whole. What was captured of the next character
shows as one replacement, but for three bytes of a surrogate pair, which show as two (`render_cut`).
-/
namespace Turnstile

open Text

namespace Charset

/-- Whether characters are written in units of two bytes. -/
def isWide : Charset → Bool
  | .utf16be | .utf16le => true
  | .utf8 | .latin1 | .ascii => false

section

variable {charset : Charset} {c : Char} {first : Bytes}

theorem decodeChars_nil (charset : Charset) : charset.decodeChars [] = [] := by
  cases charset with
  | utf8 => exact Utf8.decode_nil
  | latin1 | ascii | utf16be | utf16le => rfl

/-- What a character set has for a character is read as that character, whatever comes after it. -/
theorem decodeChars_encodeChar_append (has : charset.encodeChar c = some first) (rest : Bytes) :
    charset.decodeChars (first ++ rest) = c :: charset.decodeChars rest := by
  cases charset with
  | utf8 =>
    cases has
    exact Utf8.decode_encodeChar_append c rest
  | latin1 =>
    obtain ⟨small, bytes⟩ := Option.ite_none_right_eq_some.mp has
    cases bytes
    have read : Char.ofNat (UInt8.ofNat c.toNat).toNat = c := by
      rw [UInt8.toNat_ofNat_of_lt' small, Char.ofNat_toNat]
    exact congrArg (· :: _) read
  | ascii =>
    obtain ⟨small, bytes⟩ := Option.ite_none_right_eq_some.mp has
    cases bytes
    have value : (UInt8.ofNat c.toNat).toNat = c.toNat :=
      UInt8.toNat_ofNat_of_lt' (Nat.lt_trans small (by decide))
    have plain : UInt8.ofNat c.toNat < 0x80 := by
      rw [UInt8.lt_iff_toNat_lt, value]
      exact small
    have read : asciiChar (.ofNat c.toNat) = c := by rw [asciiChar, if_pos plain, value, Char.ofNat_toNat]
    exact congrArg (· :: _) read
  | utf16be =>
    cases has
    exact Utf16.decode_encodeChar_append .big c rest
  | utf16le =>
    cases has
    exact Utf16.decode_encodeChar_append .little c rest

/-- What the first bytes of a character read as, when it is torn. -/
theorem decodeChars_torn {k : Nat} (has : charset.encodeChar c = some first) (begun : 0 < k)
    (torn : k < first.length) : charset.decodeChars (first.take k) =
      if charset.isWide = true ∧ k = 3 then [Utf8.replacement, Utf8.replacement] else [Utf8.replacement] := by
  cases charset with
  | utf8 =>
    cases has
    exact Utf8.decode_torn begun torn
  | latin1 =>
    obtain ⟨-, bytes⟩ := Option.ite_none_right_eq_some.mp has
    cases bytes
    exact absurd begun (Nat.not_lt.mpr (Nat.le_of_lt_succ torn))
  | ascii =>
    obtain ⟨-, bytes⟩ := Option.ite_none_right_eq_some.mp has
    cases bytes
    exact absurd begun (Nat.not_lt.mpr (Nat.le_of_lt_succ torn))
  | utf16be =>
    cases has
    refine (Utf16.decode_torn .big begun torn).trans ?_
    simp [isWide]
  | utf16le =>
    cases has
    refine (Utf16.decode_torn .little begun torn).trans ?_
    simp [isWide]

end

/-! ## Texts -/

/-- The bytes of characters, where the character set has every one of them. -/
def encodeChars (charset : Charset) (cs : List Char) : Option Bytes :=
  (cs.mapM charset.encodeChar).map List.flatten

section

variable {charset : Charset} {cs kept lost : List Char} {c : Char} {bytes whole : Bytes} {n : Nat}

theorem encodeChars_cons : charset.encodeChars (c :: cs) = some bytes ↔ ∃ first rest,
    charset.encodeChar c = some first ∧ charset.encodeChars cs = some rest ∧ bytes = first ++ rest := by
  rw [encodeChars, encodeChars, List.mapM_cons]
  cases charset.encodeChar c with
  | none => simp
  | some first => cases cs.mapM charset.encodeChar <;> simp [eq_comm]

/-- The bytes of some characters are read as these, whatever comes after them. -/
theorem decodeChars_encodeChars_append (encoded : charset.encodeChars cs = some whole) (rest : Bytes) :
    charset.decodeChars (whole ++ rest) = cs ++ charset.decodeChars rest := by
  induction cs generalizing whole with
  | nil =>
    cases encoded
    rfl
  | cons c cs ih =>
    obtain ⟨first, others, has, later, rfl⟩ := encodeChars_cons.mp encoded
    rw [List.append_assoc, decodeChars_encodeChar_append has, ih later]
    rfl

theorem encodeChars_append (encoded : charset.encodeChars (kept ++ lost) = some bytes) :
    ∃ whole rest, charset.encodeChars kept = some whole ∧ charset.encodeChars lost = some rest ∧
      bytes = whole ++ rest := by
  induction kept generalizing bytes with
  | nil => exact ⟨[], bytes, rfl, encoded, rfl⟩
  | cons c cs ih =>
    obtain ⟨first, others, has, later, rfl⟩ := encodeChars_cons.mp encoded
    obtain ⟨whole, rest, own, others, rfl⟩ := ih later
    exact ⟨first ++ whole, rest, encodeChars_cons.mpr ⟨first, whole, has, own, rfl⟩, others,
      (List.append_assoc ..).symm⟩

/-- The characters that fit into so many bytes. -/
theorem exists_kept (encoded : charset.encodeChars cs = some bytes) (n : Nat) :
    ∃ kept lost whole, cs = kept ++ lost ∧ charset.encodeChars kept = some whole ∧ whole.length ≤ n ∧
      ∀ c ∈ lost.head?, ∀ first ∈ charset.encodeChar c, n < whole.length + first.length := by
  induction cs generalizing bytes n with
  | nil => exact ⟨[], [], [], rfl, rfl, Nat.zero_le _, by simp⟩
  | cons c cs ih =>
    obtain ⟨first, rest, has, later, rfl⟩ := encodeChars_cons.mp encoded
    by_cases fits : first.length ≤ n
    · obtain ⟨kept, lost, whole, rfl, own, within, torn⟩ := ih later (n - first.length)
      refine ⟨c :: kept, lost, first ++ whole, rfl, encodeChars_cons.mpr ⟨first, whole, has, own, rfl⟩, ?_, ?_⟩
      · rw [List.length_append]
        omega
      · intro d next part bytes
        have short := torn d next part bytes
        rw [List.length_append]
        omega
    · refine ⟨[], c :: cs, [], rfl, rfl, Nat.zero_le _, ?_⟩
      intro d next part bytes
      cases next
      cases has.symm.trans bytes
      rw [List.length_nil, Nat.zero_add]
      exact Nat.lt_of_not_le fits

end

/-- A text of which the first `n` bytes are left. -/
structure Cut (charset : Charset) (s : String) (n : Nat) where
  /-- The characters whose bytes are all left. -/
  kept : List Char
  lost : List Char
  text : s.toList = kept ++ lost
  /-- The bytes of the characters that are kept. -/
  whole : Bytes
  encoded : charset.encode (String.ofList kept) = some whole
  fits : whole.length ≤ n
  /-- Of the next character a byte is missing. -/
  torn : ∀ c ∈ lost.head?, ∀ first ∈ charset.encodeChar c, n < whole.length + first.length

namespace Cut

variable {charset : Charset} {s : String} {n : Nat} {bytes : Bytes}

theorem encodeChars_kept (cut : charset.Cut s n) : charset.encodeChars cut.kept = some cut.whole := by
  have encoded := cut.encoded
  rwa [encode, String.toList_ofList] at encoded

/-- However many bytes are left, they tell where a text is cut. -/
theorem exists_of_encode (encoded : charset.encode s = some bytes) (n : Nat) : Nonempty (charset.Cut s n) := by
  obtain ⟨kept, lost, whole, text, own, fits, torn⟩ := exists_kept encoded n
  refine ⟨kept, lost, text, whole, ?_, fits, torn⟩
  rw [encode, String.toList_ofList]
  exact own

/-- The bytes that are left: all of the characters that are kept, and some of the next one. -/
theorem take_bytes (cut : charset.Cut s n) (encoded : charset.encode s = some bytes)
    (short : n ≤ bytes.length) : (n = cut.whole.length ∧ bytes.take n = cut.whole) ∨
      ∃ c first, charset.encodeChar c = some first ∧ cut.whole.length < n ∧
        n < cut.whole.length + first.length ∧
        bytes.take n = cut.whole ++ first.take (n - cut.whole.length) := by
  have all : charset.encodeChars (cut.kept ++ cut.lost) = some bytes := by
    rw [← cut.text]
    exact encoded
  obtain ⟨whole, rest, own, later, rfl⟩ := encodeChars_append all
  have same : cut.whole = whole := Option.some.inj (cut.encodeChars_kept.symm.trans own)
  have fits := cut.fits
  have torn := cut.torn
  rw [same] at fits torn ⊢
  rw [List.length_append] at short
  by_cases boundary : n = whole.length
  · refine .inl ⟨boundary, ?_⟩
    rw [boundary, List.take_left]
  · cases next : cut.lost with
    | nil =>
      rw [next] at later
      cases later
      exact absurd short (by simp; omega)
    | cons c others =>
      rw [next] at later torn
      obtain ⟨first, more, has, -, rfl⟩ := encodeChars_cons.mp later
      have beyond : n < whole.length + first.length := torn c rfl first has
      refine .inr ⟨c, first, has, by omega, beyond, ?_⟩
      rw [List.take_append, List.take_of_length_le fits, List.take_append_of_le_length (by omega)]

end Cut

/-- What a text of which the first bytes are left is shown as. -/
structure Cut.Shows {charset : Charset} {s : String} {n : Nat} (cut : charset.Cut s n) (shown : String) :
    Prop where
  boundary : n = cut.whole.length → shown = String.ofList cut.kept
  torn : n ≠ cut.whole.length → ¬ (charset.isWide = true ∧ n = cut.whole.length + 3) →
    shown = String.ofList (cut.kept ++ [Utf8.replacement])
  /-- A surrogate and half of the next one are two flaws. -/
  halved : charset.isWide = true → n = cut.whole.length + 3 →
    shown = String.ofList (cut.kept ++ [Utf8.replacement, Utf8.replacement])

theorem Cut.shows_decode {charset : Charset} {s : String} {n : Nat} {bytes : Bytes} (cut : charset.Cut s n)
    (encoded : charset.encode s = some bytes) (short : n ≤ bytes.length) :
    cut.Shows (charset.decode (bytes.take n)) := by
  have shown : ∀ rest, charset.decode (cut.whole ++ rest) =
      String.ofList (cut.kept ++ charset.decodeChars rest) := fun rest =>
    congrArg String.ofList (decodeChars_encodeChars_append cut.encodeChars_kept rest)
  obtain ⟨boundary, left⟩ | ⟨c, first, has, begun, beyond, left⟩ := cut.take_bytes encoded short
  · have all := shown []
    rw [List.append_nil, decodeChars_nil, List.append_nil] at all
    rw [left]
    exact ⟨fun _ => all, fun other => absurd boundary other, fun _ halved => by omega⟩
  · have part := decodeChars_torn has (k := n - cut.whole.length) (by omega) (by omega)
    rw [left, shown, part]
    refine ⟨fun boundary => by omega, fun _ one => ?_, fun wide halved => ?_⟩
    · rw [if_neg fun two => one ⟨two.1, by omega⟩]
    · rw [if_pos ⟨wide, by omega⟩]

end Charset

namespace Capture.ByteBuffer

theorem foldl_write (b : ByteBuffer) (chunks : List Bytes) : chunks.foldl write b = b.write chunks.flatten := by
  induction chunks generalizing b with
  | nil => exact b.write_nil.symm
  | cons chunk chunks ih => rw [List.foldl_cons, ih, write_write, List.flatten_cons]

/-- A text that is streamed through a buffer which is too small for it shows the characters that are captured
whole, and then that one is torn. -/
theorem render_cut {charset : Charset} {s : String} {bytes : Bytes} {n : Nat}
    (encoded : charset.encode s = some bytes) (short : n ≤ bytes.length) :
    Nonempty (charset.Cut s n) ∧
    (∀ cut : charset.Cut s n, cut.Shows (charset.decode (bytes.take n))) ∧
    ∀ chunks : List Bytes, chunks.flatten = bytes →
      (chunks.foldl write (empty n charset)).render = charset.decode (bytes.take n) := by
  refine ⟨Charset.Cut.exists_of_encode encoded n, fun cut => cut.shows_decode encoded short, ?_⟩
  rintro chunks rfl
  rw [foldl_write, render, renderAs, bytes_write]
  rfl

theorem render_cut_of_half_letter : Charset.utf8.encode "aé" = some [0x61, 0xC3, 0xA9] ∧
    Charset.utf8.decode [0x61, 0xC3] = "a\uFFFD" := by
  have encoded : Charset.utf8.encode "aé" = some [0x61, 0xC3, 0xA9] := rfl
  obtain ⟨-, shows, -⟩ := render_cut encoded (n := 2) (by decide)
  let cut : Charset.utf8.Cut "aé" 2 :=
    { kept := ['a'], lost := ['é'], text := rfl, whole := [0x61], encoded := rfl, fits := by decide
      torn := by
        rintro c ⟨⟩ first ⟨⟩
        decide }
  exact ⟨encoded, (shows cut).torn (by decide) (by decide)⟩

/-- Three bytes of a surrogate pair are not shown as one replacement. -/
theorem halved_pair_shown_twice : ¬ ∀ (charset : Charset) (s : String) (bytes : Bytes) (n : Nat)
    (cut : charset.Cut s n), charset.encode s = some bytes → n ≤ bytes.length → cut.whole.length < n →
      charset.decode (bytes.take n) = String.ofList (cut.kept ++ [Utf8.replacement]) := by
  intro once
  let cut : Charset.utf16be.Cut "😀" 3 :=
    { kept := [], lost := ['😀'], text := rfl, whole := [], encoded := rfl, fits := by decide
      torn := by
        rintro c ⟨⟩ first ⟨⟩
        decide }
  have shown := once .utf16be "😀" [0xD8, 0x3D, 0xDE, 0x00] 3 cut rfl (by decide) (by decide)
  have twice : Charset.utf16be.decode [0xD8, 0x3D, 0xDE] = "\uFFFD\uFFFD" := rfl
  exact absurd (twice.symm.trans shown) (by decide)

end Capture.ByteBuffer
end Turnstile
