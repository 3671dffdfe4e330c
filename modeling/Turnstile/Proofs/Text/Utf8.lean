import Turnstile.Text.Utf8
/-!
# Text as bytes and back

The bytes of a character are one piece, whatever comes after them. So reading the bytes of a text gives the
text.
-/
namespace Turnstile.Text.Utf8

/-- A character is no surrogate. -/
theorem scalar (c : Char) : c.toNat < 0xD800 ∨ 0xDFFF < c.toNat ∧ c.toNat < 0x110000 := c.valid

theorem toNat_ofNat {n : Nat} (single : n < 0xD800 ∨ 0xDFFF < n ∧ n < 0x110000) : (Char.ofNat n).toNat = n := by
  have valid : n.isValidChar := single
  rw [Char.ofNat, dif_pos valid]
  rfl

/-! ## Bytes in numbers -/

/-- A byte that holds six bits of a code point. -/
theorem isTail_ofNat (n : Nat) : isTail (.ofNat (n % 64 + 128)) = true := by
  simp [isTail, UInt8.le_iff_toNat_le]
  omega

theorem tailBits_ofNat (n : Nat) : tailBits (.ofNat (n % 64 + 128)) = n % 64 := by
  simp [tailBits]
  omega

theorem isTail_iff (b : UInt8) : isTail b = true ↔ 0x80 ≤ b.toNat ∧ b.toNat ≤ 0xBF := by
  simp [isTail, UInt8.le_iff_toNat_le]

theorem toNat_of_isTail {b : UInt8} (tail : isTail b = true) :
    b.toNat = tailBits b + 0x80 ∧ tailBits b < 0x40 := by
  rw [isTail_iff] at tail
  rw [tailBits]
  omega

theorem isSecond_iff (a b : UInt8) : isSecond a b = true ↔ isTail b = true ∧
    (a.toNat = 0xE0 → 0xA0 ≤ b.toNat) ∧ (a.toNat = 0xED → b.toNat ≤ 0x9F) ∧
    (a.toNat = 0xF0 → 0x90 ≤ b.toNat) ∧ (a.toNat = 0xF4 → b.toNat ≤ 0x8F) := by
  rw [isTail_iff]
  simp only [isSecond, isTail, ← UInt8.toNat_inj, UInt8.le_iff_toNat_le, UInt8.reduceToNat]
  repeat' split
  all_goals simp only [Bool.and_eq_true, decide_eq_true_eq]; omega

theorem width_cases (a : UInt8) : width a = 1 ∧ a.toNat ≤ 0x7F ∨
    width a = 2 ∧ 0xC2 ≤ a.toNat ∧ a.toNat ≤ 0xDF ∨ width a = 3 ∧ 0xE0 ≤ a.toNat ∧ a.toNat ≤ 0xEF ∨
    width a = 4 ∧ 0xF0 ≤ a.toNat ∧ a.toNat ≤ 0xF4 ∨ width a = 0 := by
  simp only [width, UInt8.le_iff_toNat_le, UInt8.reduceToNat, Bool.and_eq_true, decide_eq_true_eq]
  repeat' split
  all_goals omega

/-! ## One character -/

section

variable {c : Char} (bs : Bytes)

theorem next_of_one (small : c.toNat ≤ 0x7F) :
    next (.ofNat c.toNat) bs = (.char c [.ofNat c.toNat], bs) := by
  have lead : (UInt8.ofNat c.toNat).toNat = c.toNat := by
    rw [UInt8.toNat_ofNat']
    omega
  have one : width (.ofNat c.toNat) = 1 := by
    simp [width, UInt8.le_iff_toNat_le, lead, small]
  simp only [next, one, lead, Char.ofNat_toNat]

theorem next_of_two (large : 0x7F < c.toNat) (small : c.toNat ≤ 0x7FF) :
    let a := UInt8.ofNat (c.toNat / 64 % 32 + 192)
    let b := UInt8.ofNat (c.toNat % 64 + 128)
    next a (b :: bs) = (.char c [a, b], bs) := by
  intro a b
  have lead : a.toNat = c.toNat / 64 + 192 := by
    simp only [a, UInt8.toNat_ofNat']
    omega
  have tail : b.toNat = c.toNat % 64 + 128 := by
    simp only [b, UInt8.toNat_ofNat']
    omega
  have two : width a = 2 := by
    simp [width, UInt8.le_iff_toNat_le, lead]
    omega
  have second : isSecond a b = true := by
    rw [isSecond_iff, isTail_iff]
    omega
  have value : a.toNat % 32 * 64 + tailBits b = c.toNat := by
    rw [lead, tailBits_ofNat]
    omega
  simp only [next, two, second, if_pos, value, Char.ofNat_toNat]

theorem next_of_three (large : 0x7FF < c.toNat) (small : c.toNat ≤ 0xFFFF) :
    let a := UInt8.ofNat (c.toNat / 4096 % 16 + 224)
    let b := UInt8.ofNat (c.toNat / 64 % 64 + 128)
    let d := UInt8.ofNat (c.toNat % 64 + 128)
    next a (b :: d :: bs) = (.char c [a, b, d], bs) := by
  intro a b d
  have lead : a.toNat = c.toNat / 4096 + 224 := by
    simp only [a, UInt8.toNat_ofNat']
    omega
  have tail : b.toNat = c.toNat / 64 % 64 + 128 := by
    simp only [b, UInt8.toNat_ofNat']
    omega
  have three : width a = 3 := by
    simp [width, UInt8.le_iff_toNat_le, lead]
    omega
  have second : isSecond a b = true := by
    have single := scalar c
    rw [isSecond_iff, isTail_iff]
    omega
  have value : a.toNat % 16 * 4096 + tailBits b * 64 + tailBits d = c.toNat := by
    rw [lead, tailBits_ofNat, tailBits_ofNat]
    omega
  simp only [next, three, second, d, isTail_ofNat, if_pos]
  rw [value, Char.ofNat_toNat]

theorem next_of_four (large : 0xFFFF < c.toNat) :
    let a := UInt8.ofNat (c.toNat / 262144 % 8 + 240)
    let b := UInt8.ofNat (c.toNat / 4096 % 64 + 128)
    let d := UInt8.ofNat (c.toNat / 64 % 64 + 128)
    let e := UInt8.ofNat (c.toNat % 64 + 128)
    next a (b :: d :: e :: bs) = (.char c [a, b, d, e], bs) := by
  intro a b d e
  have small : c.toNat < 0x110000 := by
    have single := scalar c
    omega
  have lead : a.toNat = c.toNat / 262144 + 240 := by
    simp only [a, UInt8.toNat_ofNat']
    omega
  have tail : b.toNat = c.toNat / 4096 % 64 + 128 := by
    simp only [b, UInt8.toNat_ofNat']
    omega
  have four : width a = 4 := by
    simp [width, UInt8.le_iff_toNat_le, lead]
    omega
  have second : isSecond a b = true := by
    rw [isSecond_iff, isTail_iff]
    omega
  have value : a.toNat % 8 * 262144 + tailBits b * 4096 + tailBits d * 64 + tailBits e = c.toNat := by
    rw [lead, tailBits_ofNat, tailBits_ofNat, tailBits_ofNat]
    omega
  simp only [next, four, second, d, e, isTail_ofNat, if_pos]
  rw [value, Char.ofNat_toNat]

/-- The bytes of a character are its piece. -/
theorem next_encodeChar (c : Char) (bs : Bytes) :
    ∃ a rest, String.utf8EncodeChar c = a :: rest ∧
      next a (rest ++ bs) = (.char c (String.utf8EncodeChar c), bs) := by
  rw [String.utf8EncodeChar]
  simp only [show c.val.toNat = c.toNat from rfl]
  split
  · rename_i small
    exact ⟨_, _, rfl, next_of_one bs small⟩
  · rename_i large
    split
    · rename_i small
      exact ⟨_, _, rfl, next_of_two bs (Nat.lt_of_not_le large) small⟩
    · rename_i large
      split
      · rename_i small
        exact ⟨_, _, rfl, next_of_three bs (Nat.lt_of_not_le large) small⟩
      · rename_i large
        exact ⟨_, _, rfl, next_of_four bs (Nat.lt_of_not_le large)⟩

theorem next_of_encodeChar {a : UInt8} {own : Bytes} (written : String.utf8EncodeChar c = a :: own) :
    next a (own ++ bs) = (.char c (a :: own), bs) := by
  obtain ⟨b, rest, bytes, piece⟩ := next_encodeChar c bs
  obtain ⟨rfl, rfl⟩ := List.cons.inj (bytes.symm.trans written)
  rw [piece, bytes]

end

/-! ## Whole texts -/

/-- Bytes are taken apart piece by piece. -/
@[elab_as_elim]
theorem pieces_induction {motive : Bytes → Prop} (nil : motive [])
    (cons : ∀ a rest, motive (next a rest).2 → motive (a :: rest)) (bs : Bytes) : motive bs :=
  match bs with
  | [] => nil
  | a :: rest => cons a rest (pieces_induction nil cons (next a rest).2)
termination_by bs.length
decreasing_by exact Nat.lt_succ_of_le (next_rest_length a rest)

theorem piecesOnto_eq (done : List Piece) (bs : Bytes) : piecesOnto done bs = done.reverse ++ pieces bs := by
  induction bs using pieces_induction generalizing done with
  | nil => simp [pieces, piecesOnto]
  | cons a rest ih =>
    rw [pieces, piecesOnto, piecesOnto, ih, ih]
    simp

theorem pieces_nil : pieces [] = [] := by
  rw [pieces, piecesOnto]
  rfl

theorem pieces_cons (a : UInt8) (rest : Bytes) :
    pieces (a :: rest) = (next a rest).1 :: pieces (next a rest).2 := by
  rw [pieces, piecesOnto, piecesOnto_eq]
  rfl

/-- The pieces of a text's bytes are its characters, and what comes after them is cut as if it stood alone. -/
theorem pieces_encode_append (cs : List Char) (bs : Bytes) :
    pieces (encode cs ++ bs) = cs.map (fun c => .char c (String.utf8EncodeChar c)) ++ pieces bs := by
  induction cs with
  | nil => rfl
  | cons c cs ih =>
    obtain ⟨a, rest, bytes, piece⟩ := next_encodeChar c (encode cs ++ bs)
    have whole : encode (c :: cs) ++ bs = a :: (rest ++ (encode cs ++ bs)) := by
      rw [encode, List.flatMap_cons, bytes]
      simp [encode]
    rw [whole, pieces_cons, piece, ih]
    rfl

theorem pieces_encode (cs : List Char) :
    pieces (encode cs) = cs.map fun c => .char c (String.utf8EncodeChar c) := by
  have cut := pieces_encode_append cs []
  rwa [List.append_nil, pieces_nil, List.append_nil] at cut

theorem decode_nil : decode [] = [] := by
  rw [decode, pieces_nil]
  rfl

theorem decode_encodeChar_append (c : Char) (bs : Bytes) :
    decode (String.utf8EncodeChar c ++ bs) = c :: decode bs := by
  have cut := pieces_encode_append [c] bs
  rw [encode, List.flatMap_singleton] at cut
  rw [decode, cut]
  rfl

/-- A text is read from its bytes. -/
theorem decode?_encode (cs : List Char) : decode? (encode cs) = some cs := by
  rw [decode?, pieces_encode]
  induction cs with
  | nil => rfl
  | cons c cs ih => simp [ih]

/-- Only a line feed is written with its byte. -/
theorem feed_mem_encode {cs : List Char} (mem : 10 ∈ encode cs) : '\n' ∈ cs := by
  obtain ⟨c, here, byte⟩ := List.mem_flatMap.mp mem
  have feed : c.toNat = 10 := by
    rw [String.utf8EncodeChar] at byte
    simp only [show c.val.toNat = c.toNat from rfl] at byte
    split at byte
    · simp [← UInt8.toNat_inj] at byte
      omega
    · repeat' split at byte
      all_goals
        simp [← UInt8.toNat_inj] at byte
        omega
  rwa [← Char.ofNat_toNat c, feed] at here

end Turnstile.Text.Utf8
