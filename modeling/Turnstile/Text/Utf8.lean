/-!
# UTF-8

Text as bytes and bytes as text. `pieces` cuts any bytes into consecutive non-empty pieces: each
well-formed character, and between them the longest runs that start a character and cannot continue
it. Reading replaces each ill-formed piece by one replacement character (`decode`) or refuses the
whole (`decode?`).
-/
namespace Turnstile

/-- A sequence of bytes. -/
abbrev Bytes := List UInt8

namespace Text.Utf8

/-- The replacement character, written for bytes that encode nothing. -/
def replacement : Char := '\ufffd'

def encode (cs : List Char) : Bytes :=
  cs.flatMap String.utf8EncodeChar

/-- One piece of a byte sequence. -/
inductive Piece
  /-- A well-formed character with its bytes. -/
  | char (c : Char) (bytes : Bytes)
  /-- Bytes that no character contains in this place. -/
  | flaw (bytes : Bytes)
deriving Repr, DecidableEq

namespace Piece

def bytes : Piece → Bytes
  | .char _ bs => bs
  | .flaw bs => bs

/-- The character the piece reads as. -/
def reading : Piece → Char
  | .char c _ => c
  | .flaw _ => replacement

end Piece

/-- A byte that may follow the second byte of a character. -/
def isTail (b : UInt8) : Bool := 0x80 ≤ b && b ≤ 0xBF

/-- How many bytes a character has that starts with this byte; none where no character does. -/
def width (lead : UInt8) : Nat :=
  if lead ≤ 0x7F then 1
  else if 0xC2 ≤ lead && lead ≤ 0xDF then 2
  else if 0xE0 ≤ lead && lead ≤ 0xEF then 3
  else if 0xF0 ≤ lead && lead ≤ 0xF4 then 4
  else 0

/-- Whether `b` may be second after this first byte: overlong forms, surrogates and code points
above U+10FFFF are ruled out here. -/
def isSecond (lead b : UInt8) : Bool :=
  if lead = 0xE0 then 0xA0 ≤ b && b ≤ 0xBF
  else if lead = 0xED then 0x80 ≤ b && b ≤ 0x9F
  else if lead = 0xF0 then 0x90 ≤ b && b ≤ 0xBF
  else if lead = 0xF4 then 0x80 ≤ b && b ≤ 0x8F
  else isTail b

/-- The low six bits of a continuation byte. -/
def tailBits (b : UInt8) : Nat := b.toNat % 64

/-- The piece that starts with `a`, and what follows it. -/
def next (a : UInt8) (rest : Bytes) : Piece × Bytes :=
  match width a, rest with
  | 1, _ => (.char (Char.ofNat a.toNat) [a], rest)
  | 2, b :: rest₁ =>
    if isSecond a b then (.char (Char.ofNat ((a.toNat % 32) * 64 + tailBits b)) [a, b], rest₁)
    else (.flaw [a], rest)
  | 3, b :: rest₁ =>
    if isSecond a b then
      match rest₁ with
      | c :: rest₂ =>
        if isTail c then
          (.char (Char.ofNat ((a.toNat % 16) * 4096 + tailBits b * 64 + tailBits c)) [a, b, c], rest₂)
        else (.flaw [a, b], rest₁)
      | [] => (.flaw [a, b], rest₁)
    else (.flaw [a], rest)
  | 4, b :: rest₁ =>
    if isSecond a b then
      match rest₁ with
      | c :: rest₂ =>
        if isTail c then
          match rest₂ with
          | d :: rest₃ =>
            if isTail d then
              (.char (Char.ofNat ((a.toNat % 8) * 262144 + tailBits b * 4096 + tailBits c * 64 +
                tailBits d)) [a, b, c, d], rest₃)
            else (.flaw [a, b, c], rest₂)
          | [] => (.flaw [a, b, c], rest₂)
        else (.flaw [a, b], rest₁)
      | [] => (.flaw [a, b], rest₁)
    else (.flaw [a], rest)
  | _, _ => (.flaw [a], rest)

/-- A piece covers the byte it starts with and the first of those after it. -/
theorem next_covers (a : UInt8) (rest : Bytes) :
    ∃ more, (next a rest).1.bytes = a :: more ∧ more ++ (next a rest).2 = rest := by
  unfold next
  split
  · exact ⟨_, rfl, rfl⟩
  · split <;> exact ⟨_, rfl, rfl⟩
  · split
    · split
      · split <;> exact ⟨_, rfl, rfl⟩
      · exact ⟨_, rfl, rfl⟩
    · exact ⟨_, rfl, rfl⟩
  · split
    · split
      · split
        · split
          · split <;> exact ⟨_, rfl, rfl⟩
          · exact ⟨_, rfl, rfl⟩
        · exact ⟨_, rfl, rfl⟩
      · exact ⟨_, rfl, rfl⟩
    · exact ⟨_, rfl, rfl⟩
  · exact ⟨_, rfl, rfl⟩

/-- A piece and what follows it are the bytes it was taken from. -/
theorem next_bytes (a : UInt8) (rest : Bytes) :
    (next a rest).1.bytes ++ (next a rest).2 = a :: rest := by
  obtain ⟨more, bytes, covered⟩ := next_covers a rest
  rw [bytes, List.cons_append, covered]

/-- A piece covers at least the byte it starts with. -/
theorem next_rest_length (a : UInt8) (rest : Bytes) :
    (next a rest).2.length ≤ rest.length := by
  obtain ⟨more, -, covered⟩ := next_covers a rest
  exact List.IsSuffix.length_le ⟨more, covered⟩

/-- The pieces of `bs`, after those of `done` in reverse order. -/
def piecesOnto (done : List Piece) : Bytes → List Piece
  | [] => done.reverse
  | a :: rest => piecesOnto ((next a rest).1 :: done) (next a rest).2
termination_by bs => bs.length
decreasing_by
  have := next_rest_length a rest
  simp only [List.length_cons]
  omega

/-- The pieces of a byte sequence, in order. -/
def pieces (bs : Bytes) : List Piece := piecesOnto [] bs

/-- The text of any bytes, with one replacement character for each ill-formed piece. -/
def decode (bs : Bytes) : List Char := (pieces bs).map Piece.reading

/-- The text of well-formed bytes. -/
def decode? (bs : Bytes) : Option (List Char) :=
  (pieces bs).mapM fun
    | .char c _ => some c
    | .flaw _ => none

end Text.Utf8
end Turnstile
