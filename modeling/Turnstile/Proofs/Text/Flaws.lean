import Turnstile.Proofs.Text.Utf8
/-!
# Ill-formed bytes

Any bytes are cut into characters and flaws in one way only: a flaw is the longest beginning of a character
that is not one, or a byte with which nothing begins (`Flaw`). Reading gives the characters, and one replacement
for each flaw (`decode_eq_iff`). What is well-formed is said by how characters are written, not by how they are
read.
-/
namespace Turnstile.Text.Utf8

/-! ## The character of given bytes -/

section

variable {a b d e : UInt8} {n : Nat}

theorem encodeChar_of_one (one : width a = 1) (value : n = a.toNat) :
    String.utf8EncodeChar (.ofNat n) = [a] := by
  have lead : a.toNat ≤ 0x7F := by
    have leads := width_cases a
    omega
  have number : (Char.ofNat n).val.toNat = n := toNat_ofNat (by omega)
  rw [String.utf8EncodeChar]
  simp only [number]
  rw [if_pos (by omega), value, UInt8.ofNat_toNat]

theorem encodeChar_of_two (two : width a = 2) (second : isSecond a b = true)
    (value : n = a.toNat % 32 * 64 + tailBits b) : String.utf8EncodeChar (.ofNat n) = [a, b] := by
  have lead : 0xC2 ≤ a.toNat ∧ a.toNat ≤ 0xDF := by
    have leads := width_cases a
    omega
  have low := toNat_of_isTail ((isSecond_iff a b).mp second).1
  have number : (Char.ofNat n).val.toNat = n := toNat_ofNat (by omega)
  rw [String.utf8EncodeChar]
  simp only [number]
  rw [if_neg (by omega), if_pos (by omega)]
  simp only [List.cons.injEq, ← UInt8.toNat_inj, UInt8.toNat_ofNat', and_true]
  omega

theorem encodeChar_of_three (three : width a = 3) (second : isSecond a b = true) (third : isTail d = true)
    (value : n = a.toNat % 16 * 4096 + tailBits b * 64 + tailBits d) :
    String.utf8EncodeChar (.ofNat n) = [a, b, d] := by
  have lead : 0xE0 ≤ a.toNat ∧ a.toNat ≤ 0xEF := by
    have leads := width_cases a
    omega
  -- The second byte keeps off overlong forms and surrogates.
  obtain ⟨tail, long, single, -⟩ := (isSecond_iff a b).mp second
  have middle := toNat_of_isTail tail
  have low := toNat_of_isTail third
  have number : (Char.ofNat n).val.toNat = n := toNat_ofNat (by omega)
  rw [String.utf8EncodeChar]
  simp only [number]
  rw [if_neg (by omega), if_neg (by omega), if_pos (by omega)]
  simp only [List.cons.injEq, ← UInt8.toNat_inj, UInt8.toNat_ofNat', and_true]
  omega

theorem encodeChar_of_four (four : width a = 4) (second : isSecond a b = true) (third : isTail d = true)
    (fourth : isTail e = true)
    (value : n = a.toNat % 8 * 262144 + tailBits b * 4096 + tailBits d * 64 + tailBits e) :
    String.utf8EncodeChar (.ofNat n) = [a, b, d, e] := by
  have lead : 0xF0 ≤ a.toNat ∧ a.toNat ≤ 0xF4 := by
    have leads := width_cases a
    omega
  -- It also keeps below U+110000.
  obtain ⟨tail, -, -, long, last⟩ := (isSecond_iff a b).mp second
  have high := toNat_of_isTail tail
  have middle := toNat_of_isTail third
  have low := toNat_of_isTail fourth
  have number : (Char.ofNat n).val.toNat = n := toNat_ofNat (by omega)
  rw [String.utf8EncodeChar]
  simp only [number]
  rw [if_neg (by omega), if_neg (by omega), if_neg (by omega)]
  simp only [List.cons.injEq, ← UInt8.toNat_inj, UInt8.toNat_ofNat', and_true]
  omega

end

/-! ## Beginnings of characters -/

/-- Bytes that some character is written with, or begins to be. -/
def Begins (bs : Bytes) : Prop := ∃ c, bs <+: String.utf8EncodeChar c

theorem begins_three {a b : UInt8} (three : width a = 3) (second : isSecond a b = true) : Begins [a, b] :=
  ⟨_, [0x80], (encodeChar_of_three (d := 0x80) three second rfl rfl).symm⟩

theorem begins_four {a b d : UInt8} (four : width a = 4) (second : isSecond a b = true)
    (third : isTail d = true) : Begins [a, b, d] :=
  ⟨_, [0x80], (encodeChar_of_four (e := 0x80) four second third rfl rfl).symm⟩

/-- Bytes that may come after the first byte of a character, as far as they go. -/
def Follows (a : UInt8) : Bytes → Prop
  | [] => True
  | b :: more => isSecond a b = true ∧ ∀ d ∈ more, isTail d = true

theorem Follows.mono {a : UInt8} {bs more : Bytes} (follows : Follows a more) (front : bs <+: more) :
    Follows a bs := by
  cases bs with
  | nil => trivial
  | cons b bs =>
    obtain ⟨rest, rfl⟩ := front
    exact ⟨follows.1, fun d mem => follows.2 d (List.mem_append_left rest mem)⟩

/-- What is taken from the front of bytes with the first byte `a`, and what is left. -/
inductive Takes (a : UInt8) : Piece → Bytes → Prop
  /-- A character as it is written. -/
  | char {c : Char} {own after : Bytes} : String.utf8EncodeChar c = a :: own → own.length + 1 = width a →
      Follows a own → Takes a (.char c (a :: own)) after
  /-- Nothing is left to go on with. -/
  | ended {own : Bytes} : Begins (a :: own) ∨ (a :: own).length = 1 → Takes a (.flaw (a :: own)) []
  /-- The next byte does not go on. -/
  | broken {own after : Bytes} {d : UInt8} : Begins (a :: own) ∨ (a :: own).length = 1 →
      (own.length + 1 < width a → ¬ Follows a (own ++ [d])) → Takes a (.flaw (a :: own)) (d :: after)

theorem next_takes (a : UInt8) (rest : Bytes) : Takes a (next a rest).1 (next a rest).2 := by
  unfold next
  split
  · rename_i one
    exact .char (encodeChar_of_one one rfl) one.symm trivial
  · rename_i b rest₁ two
    split
    · rename_i second
      exact .char (encodeChar_of_two two second rfl) two.symm ⟨second, by simp⟩
    · rename_i other
      exact .broken (.inr rfl) fun _ follows => other follows.1
  · rename_i b rest₁ three
    split
    · rename_i second
      have begun := begins_three three second
      split
      · split
        · rename_i third
          exact .char (encodeChar_of_three three second third rfl) three.symm ⟨second, by simpa using third⟩
        · rename_i other
          exact .broken (.inl begun) fun _ follows => other (follows.2 _ (by simp))
      · exact .ended (.inl begun)
    · rename_i other
      exact .broken (.inr rfl) fun _ follows => other follows.1
  · rename_i b rest₁ four
    split
    · rename_i second
      have begun : Begins [a, b] :=
        (begins_four four second (d := 0x80) rfl).imp fun _ within => .trans ⟨[0x80], rfl⟩ within
      split
      · split
        · rename_i third
          have begun := begins_four four second third
          split
          · split
            · rename_i fourth
              exact .char (encodeChar_of_four four second third fourth rfl) four.symm
                ⟨second, by simp [third, fourth]⟩
            · rename_i other
              exact .broken (.inl begun) fun _ follows => other (follows.2 _ (by simp))
          · exact .ended (.inl begun)
        · rename_i other
          exact .broken (.inl begun) fun _ follows => other (follows.2 _ (by simp))
      · exact .ended (.inl begun)
    · rename_i other
      exact .broken (.inr rfl) fun _ follows => other follows.1
  · rename_i rest _ _ _ two three four
    cases rest with
    | nil => exact .ended (.inr rfl)
    | cons b rest =>
      refine .broken (.inr rfl) fun wide _ => ?_
      obtain ⟨lead, -⟩ | ⟨lead, -⟩ | ⟨lead, -⟩ | ⟨lead, -⟩ | lead := width_cases a
      · exact absurd wide (by simp [lead])
      · exact two b rest lead rfl
      · exact three b rest lead rfl
      · exact four b rest lead rfl
      · exact absurd wide (by simp [lead])

/-- The bytes of a character follow each other, and their number is told by the first one. -/
theorem follows_of_encodeChar {a : UInt8} {own : Bytes} {c : Char} (bytes : String.utf8EncodeChar c = a :: own) :
    own.length + 1 = width a ∧ Follows a own := by
  have taken := next_takes a (own ++ [])
  rw [next_of_encodeChar [] bytes] at taken
  cases taken with
  | char _ long follows => exact ⟨long, follows⟩

theorem Begins.follows {a : UInt8} {own : Bytes} (begun : Begins (a :: own)) :
    own.length + 1 ≤ width a ∧ Follows a own := by
  obtain ⟨c, rest, bytes⟩ := begun
  have written : String.utf8EncodeChar c = a :: (own ++ rest) := bytes.symm
  obtain ⟨long, follows⟩ := follows_of_encodeChar written
  rw [List.length_append] at long
  exact ⟨by omega, follows.mono ⟨rest, rfl⟩⟩

/-! ## Flaws -/

/-- The ill-formed piece in front of the bytes `after`, as long as it can be. -/
structure Flaw (own after : Bytes) : Prop where
  nonempty : own ≠ []
  /-- No character stands in its place. -/
  illFormed : ∀ c, ¬ String.utf8EncodeChar c <+: own ++ after
  /-- Some character begins with it, or it is a single byte. -/
  begun : Begins own ∨ own.length = 1
  /-- No character begins with more of the bytes. -/
  maximal : ∀ more, more <+: own ++ after → Begins more → more.length ≤ own.length

section

variable {a : UInt8} {rest own own' after after' more : Bytes}

theorem char_of_next {c : Char} (char : next a rest = (.char c own, after)) : String.utf8EncodeChar c = own := by
  have taken := next_takes a rest
  rw [char] at taken
  cases taken with
  | char written => exact written

theorem flaw_of_next (flaw : next a rest = (.flaw own, after)) : Flaw own after := by
  have whole := next_bytes a rest
  have taken := next_takes a rest
  rw [flaw] at whole taken
  have illFormed : ∀ c, ¬ String.utf8EncodeChar c <+: own ++ after := by
    rintro c ⟨others, front⟩
    obtain ⟨b, later, bytes, piece⟩ := next_encodeChar c others
    rw [bytes, List.cons_append] at front
    obtain ⟨rfl, rfl⟩ := List.cons.inj (front.trans whole)
    rw [flaw] at piece
    cases piece
  cases taken with
  | @ended own begun =>
    refine ⟨List.cons_ne_nil a own, illFormed, begun, ?_⟩
    intro more front _
    rw [List.append_nil] at front
    exact front.length_le
  | @broken own after d begun stops =>
    refine ⟨List.cons_ne_nil a own, illFormed, begun, ?_⟩
    intro more front begins
    refine Nat.le_of_not_lt fun longer => ?_
    have onward : a :: (own ++ [d]) <+: more := by
      refine List.prefix_of_prefix_length_le ⟨after, by simp⟩ front ?_
      rw [List.length_cons, List.length_append]
      exact longer
    obtain ⟨long, follows⟩ := Begins.follows (begins.imp fun _ within => onward.trans within)
    rw [List.length_append, List.length_singleton] at long
    exact stops long follows

/-- A flaw is no longer than another one of the same bytes. -/
theorem Flaw.length_le (first : Flaw own after) (second : Flaw own' after')
    (same : own ++ after = own' ++ after') : own.length ≤ own'.length := by
  rcases first.begun with begun | one
  · exact second.maximal own ⟨after, same⟩ begun
  · rw [one]
    exact List.length_pos_iff.mpr second.nonempty

theorem Flaw.unique (first : Flaw own after) (second : Flaw own' after') (same : own ++ after = own' ++ after') :
    own = own' ∧ after = after' :=
  List.append_inj same (Nat.le_antisymm (first.length_le second same) (second.length_le first same.symm))

theorem next_of_flaw (flaw : Flaw (a :: own) after) : next a (own ++ after) = (.flaw (a :: own), after) := by
  have whole := next_bytes a (own ++ after)
  cases step : next a (own ++ after) with
  | mk piece left =>
    rw [step] at whole
    cases piece with
    | char c bytes =>
      rw [Piece.bytes, ← char_of_next step] at whole
      exact absurd ⟨left, whole⟩ (flaw.illFormed c)
    | flaw other =>
      obtain ⟨rfl, rfl⟩ := (flaw_of_next step).unique flaw whole
      rfl

/-- A flaw is the same if the bytes end somewhere after it. -/
theorem Flaw.cut (flaw : Flaw own (more ++ rest)) : Flaw own more := by
  have front : own ++ more <+: own ++ (more ++ rest) := ⟨rest, List.append_assoc ..⟩
  exact ⟨flaw.nonempty, fun c within => flaw.illFormed c (within.trans front), flaw.begun,
    fun bs within => flaw.maximal bs (within.trans front)⟩

/-- A piece is the same if the bytes end somewhere after it. -/
theorem next_cut {tail : Bytes} {piece : Piece} (whole : next a tail = (piece, more ++ rest)) :
    ∃ own, piece.bytes = a :: own ∧ next a (own ++ more) = (piece, more) := by
  obtain ⟨own, starts, -⟩ := next_covers a tail
  rw [whole] at starts
  refine ⟨own, starts, ?_⟩
  cases piece with
  | char c bytes =>
    cases starts
    exact next_of_encodeChar more (char_of_next whole)
  | flaw bytes =>
    cases starts
    exact next_of_flaw (flaw_of_next whole).cut

/-- What a character's bytes begin with is a flaw if the rest is missing. -/
theorem flaw_torn {c : Char} {k : Nat} (some : 0 < k) (torn : k < (String.utf8EncodeChar c).length) :
    Flaw ((String.utf8EncodeChar c).take k) [] := by
  obtain ⟨a, own, bytes, -⟩ := next_encodeChar c []
  have front : (String.utf8EncodeChar c).take k ++ [] <+: String.utf8EncodeChar c := by
    rw [List.append_nil]
    exact List.take_prefix k _
  refine ⟨?_, ?_, .inl ⟨c, List.take_prefix k _⟩, ?_⟩
  · rw [← List.length_pos_iff, List.length_take]
    omega
  -- The bytes of two characters that begin alike are equally many.
  · intro d within
    obtain ⟨b, other, written, -⟩ := next_encodeChar d []
    have shorter := within.length_le
    have alike := within.trans front
    rw [written, bytes] at alike
    obtain ⟨rfl, -⟩ := List.cons_prefix_cons.mp alike
    have long := follows_of_encodeChar bytes
    have same := follows_of_encodeChar written
    rw [List.append_nil, List.length_take, written, bytes] at shorter
    rw [bytes] at torn
    simp only [List.length_cons] at shorter torn
    omega
  · intro more within _
    rw [List.append_nil] at within
    exact within.length_le

end

theorem pieces_torn {c : Char} {k : Nat} (some : 0 < k) (torn : k < (String.utf8EncodeChar c).length) :
    pieces ((String.utf8EncodeChar c).take k) = [.flaw ((String.utf8EncodeChar c).take k)] := by
  have flaw := flaw_torn some torn
  cases bytes : (String.utf8EncodeChar c).take k with
  | nil => exact absurd bytes flaw.nonempty
  | cons a own =>
    rw [bytes] at flaw
    have step := next_of_flaw flaw
    rw [List.append_nil] at step
    rw [pieces_cons, step, pieces_nil]

theorem decode_torn {c : Char} {k : Nat} (some : 0 < k) (torn : k < (String.utf8EncodeChar c).length) :
    decode ((String.utf8EncodeChar c).take k) = [replacement] := by
  rw [decode, pieces_torn some torn]
  rfl

/-! ## Whole byte sequences -/

/-- What consecutive pieces read as: a character as it is written is itself, and a flaw one replacement. -/
inductive Reads : List Bytes → List Char → Prop
  | done : Reads [] []
  | char (c : Char) {pieces : List Bytes} {cs : List Char} :
      Reads pieces cs → Reads (String.utf8EncodeChar c :: pieces) (c :: cs)
  | flaw {own : Bytes} {pieces : List Bytes} {cs : List Char} :
      Flaw own pieces.flatten → Reads pieces cs → Reads (own :: pieces) ('\uFFFD' :: cs)

namespace Reads

variable {pieces others : List Bytes} {cs ds : List Char}

theorem length_eq (reads : Reads pieces cs) : cs.length = pieces.length := by
  induction reads with
  | done => rfl
  | char c _ ih => exact congrArg (· + 1) ih
  | flaw _ _ ih => exact congrArg (· + 1) ih

theorem ne_nil (reads : Reads pieces cs) : ∀ piece ∈ pieces, piece ≠ [] := by
  induction reads with
  | done => simp
  | char c _ ih => exact List.forall_mem_cons.mpr ⟨String.utf8EncodeChar_ne_nil, ih⟩
  | flaw flaw _ ih => exact List.forall_mem_cons.mpr ⟨flaw.nonempty, ih⟩

theorem unique (reads : Reads pieces cs) (again : Reads others ds)
    (same : pieces.flatten = others.flatten) : pieces = others ∧ cs = ds := by
  induction reads generalizing others ds with
  | done =>
    cases again with
    | done => exact ⟨rfl, rfl⟩
    | char d _ => exact absurd (List.append_eq_nil_iff.mp same.symm).1 String.utf8EncodeChar_ne_nil
    | flaw flaw _ => exact absurd (List.append_eq_nil_iff.mp same.symm).1 flaw.nonempty
  | char c _ ih =>
    cases again with
    | done => exact absurd (List.append_eq_nil_iff.mp same).1 String.utf8EncodeChar_ne_nil
    | @char d others ds again =>
      rw [List.flatten_cons, List.flatten_cons] at same
      have read := congrArg decode same
      rw [decode_encodeChar_append, decode_encodeChar_append] at read
      obtain ⟨rfl, -⟩ := List.cons.inj read
      obtain ⟨rfl, rfl⟩ := ih again (List.append_cancel_left same)
      exact ⟨rfl, rfl⟩
    | flaw flaw _ => exact absurd ⟨_, same⟩ (flaw.illFormed c)
  | flaw flaw _ ih =>
    cases again with
    | done => exact absurd (List.append_eq_nil_iff.mp same).1 flaw.nonempty
    | char d _ => exact absurd ⟨_, same.symm⟩ (flaw.illFormed d)
    | @flaw own others ds other again =>
      rw [List.flatten_cons, List.flatten_cons] at same
      obtain ⟨rfl, rest⟩ := flaw.unique other same
      obtain ⟨rfl, rfl⟩ := ih again rest
      exact ⟨rfl, rfl⟩

end Reads

theorem flatten_pieces (bs : Bytes) : ((pieces bs).map Piece.bytes).flatten = bs := by
  induction bs using pieces_induction with
  | nil =>
    rw [pieces_nil]
    rfl
  | cons a rest ih => rw [pieces_cons, List.map_cons, List.flatten_cons, ih, next_bytes]

theorem reads_pieces (bs : Bytes) : Reads ((pieces bs).map Piece.bytes) (decode bs) := by
  induction bs using pieces_induction with
  | nil =>
    rw [decode_nil, pieces_nil]
    exact .done
  | cons a rest ih =>
    rw [decode, pieces_cons]
    cases step : next a rest with
    | mk piece left =>
      rw [step] at ih
      cases piece with
      | char c bytes =>
        rw [← char_of_next step]
        exact .char c ih
      | flaw own =>
        have flaw := flaw_of_next step
        rw [← flatten_pieces left] at flaw
        exact .flaw flaw ih

/-- Bytes read as what the one way to cut them into characters and flaws reads as. -/
theorem decode_eq_iff {bs : Bytes} {cs : List Char} :
    decode bs = cs ↔ ∃ pieces, List.flatten pieces = bs ∧ (∀ piece ∈ pieces, piece ≠ []) ∧ Reads pieces cs := by
  constructor
  · rintro rfl
    exact ⟨_, flatten_pieces bs, (reads_pieces bs).ne_nil, reads_pieces bs⟩
  · rintro ⟨cut, whole, -, reads⟩
    exact ((reads_pieces bs).unique reads ((flatten_pieces bs).trans whole.symm)).2

-- A torn character is one flaw, an overlong form a flaw for each byte.
example : decode [0xF0, 0x9F, 0x98, 0xC0, 0xAF] = ['\uFFFD', '\uFFFD', '\uFFFD'] := by cbv

end Turnstile.Text.Utf8
