import Turnstile.Proofs.Text.Utf8
import Turnstile.Text.Utf16
/-!
# Texts in 16-bit units

The units of a character are read as that character, whatever comes after them. Of a surrogate pair half may be
missing, and half of a unit: each then reads as a replacement of its own, the first unit and the byte that is
left over.
-/
namespace Turnstile.Text.Utf16

section

variable (o : Order)

theorem unitsOnto_eq (done : List Nat) (bs : Bytes) :
    unitsOnto o done bs = (done.reverse ++ (units o bs).1, (units o bs).2) := by
  have shifted : ∀ (done : List Nat) (bs : Bytes) (first : List Nat),
      unitsOnto o (done ++ first) bs = (first.reverse ++ (unitsOnto o done bs).1, (unitsOnto o done bs).2) := by
    intro done bs
    induction done, bs using unitsOnto.induct o with
    | case1 done => simp [unitsOnto]
    | case2 done b => simp [unitsOnto]
    | case3 done a b rest ih => exact ih
  exact shifted [] bs done

/-- The two bytes of a unit are read as the unit. -/
theorem units_split_append {u : Nat} (small : u < 0x10000) (bs : Bytes) :
    units o (o.split u ++ bs) = (u :: (units o bs).1, (units o bs).2) := by
  have low : (UInt8.ofNat (u % 256)).toNat = u % 256 := by
    rw [UInt8.toNat_ofNat']
    omega
  have high : (UInt8.ofNat (u / 256)).toNat = u / 256 := by
    rw [UInt8.toNat_ofNat']
    omega
  cases o with
  | big =>
    have joined : Order.big.join (.ofNat (u / 256)) (.ofNat (u % 256)) = u := by
      simp only [Order.join, low, high]
      omega
    show unitsOnto .big [_] bs = _
    rw [unitsOnto_eq, joined]
    rfl
  | little =>
    have joined : Order.little.join (.ofNat (u % 256)) (.ofNat (u / 256)) = u := by
      simp only [Order.join, low, high]
      omega
    show unitsOnto .little [_] bs = _
    rw [unitsOnto_eq, joined]
    rfl

theorem charsOnto_eq (done : List Char) (us : List Nat) : charsOnto done us = done.reverse ++ decodeUnits us := by
  have shifted : ∀ (done : List Char) (us : List Nat) (first : List Char),
      charsOnto (done ++ first) us = first.reverse ++ charsOnto done us := by
    intro done us
    induction done, us using charsOnto.induct with
    | case1 done => simp [charsOnto]
    | case2 done u => simp [charsOnto]
    | case3 done u v rest high low ih =>
      intro first
      rw [charsOnto, if_pos high, if_pos low, charsOnto, if_pos high, if_pos low]
      exact ih first
    | case4 done u v rest high other ih =>
      intro first
      rw [charsOnto, if_pos high, if_neg other, charsOnto, if_pos high, if_neg other]
      exact ih first
    | case5 done u v rest other low ih =>
      intro first
      rw [charsOnto, if_neg other, if_pos low, charsOnto, if_neg other, if_pos low]
      exact ih first
    | case6 done u v rest other plain ih =>
      intro first
      rw [charsOnto, if_neg other, if_neg plain, charsOnto, if_neg other, if_neg plain]
      exact ih first
  exact shifted [] us done

end

/-! ## Characters -/

section

variable {c : Char}

theorem isHigh_first (large : 0x10000 ≤ c.toNat) :
    isHigh (0xD800 + (c.toNat - 0x10000) / 0x400) = true := by
  have single := Utf8.scalar c
  simp only [isHigh, Bool.and_eq_true, decide_eq_true_eq]
  omega

theorem isLow_second (c : Char) : isLow (0xDC00 + (c.toNat - 0x10000) % 0x400) = true := by
  simp only [isLow, Bool.and_eq_true, decide_eq_true_eq]
  omega

theorem encodeChar_of_small (small : c.toNat < 0x10000) : encodeChar c = [c.toNat] := if_pos small

theorem encodeChar_of_large (large : 0x10000 ≤ c.toNat) : encodeChar c =
    [0xD800 + (c.toNat - 0x10000) / 0x400, 0xDC00 + (c.toNat - 0x10000) % 0x400] :=
  if_neg (Nat.not_lt.mpr large)

theorem decodeUnits_encodeChar_append (c : Char) (us : List Nat) :
    decodeUnits (encodeChar c ++ us) = c :: decodeUnits us := by
  have single := Utf8.scalar c
  by_cases small : c.toNat < 0x10000
  · have other : ¬ isHigh c.toNat = true := by
      simp only [isHigh, Bool.and_eq_true, decide_eq_true_eq]
      omega
    have plain : ¬ isLow c.toNat = true := by
      simp only [isLow, Bool.and_eq_true, decide_eq_true_eq]
      omega
    rw [encodeChar_of_small small]
    cases us with
    | nil => simp [decodeUnits, charsOnto, other, plain]
    | cons v rest =>
      show charsOnto [] (c.toNat :: v :: rest) = _
      rw [charsOnto, if_neg other, if_neg plain, Char.ofNat_toNat, charsOnto_eq]
      rfl
  · have large : 0x10000 ≤ c.toNat := Nat.le_of_not_lt small
    have joined : joinPair (0xD800 + (c.toNat - 0x10000) / 0x400) (0xDC00 + (c.toNat - 0x10000) % 0x400) = c := by
      have value : 0x10000 + (0xD800 + (c.toNat - 0x10000) / 0x400 - 0xD800) * 0x400 +
          (0xDC00 + (c.toNat - 0x10000) % 0x400 - 0xDC00) = c.toNat := by omega
      rw [joinPair, value, Char.ofNat_toNat]
    rw [encodeChar_of_large large]
    show charsOnto [] (_ :: _ :: us) = _
    rw [charsOnto, if_pos (isHigh_first large), if_pos (isLow_second c), joined, charsOnto_eq]
    rfl

theorem encodeChar_small (c : Char) : ∀ u ∈ encodeChar c, u < 0x10000 := by
  have single := Utf8.scalar c
  by_cases small : c.toNat < 0x10000
  · simpa [encodeChar_of_small small] using small
  · have large : 0x10000 ≤ c.toNat := Nat.le_of_not_lt small
    simp only [encodeChar_of_large large, List.mem_cons, List.not_mem_nil, or_false, forall_eq_or_imp,
      forall_eq]
    omega

theorem units_flatMap_append (o : Order) {us : List Nat} (small : ∀ u ∈ us, u < 0x10000) (bs : Bytes) :
    units o (us.flatMap o.split ++ bs) = (us ++ (units o bs).1, (units o bs).2) := by
  induction us with
  | nil => rfl
  | cons u us ih =>
    rw [List.flatMap_cons, List.append_assoc, units_split_append o (small u List.mem_cons_self),
      ih fun v mem => small v (List.mem_cons_of_mem _ mem)]
    rfl

/-- The bytes of a character are read as that character. -/
theorem decode_encodeChar_append (o : Order) (c : Char) (bs : Bytes) :
    decode o ((encodeChar c).flatMap o.split ++ bs) = c :: decode o bs := by
  rw [decode, units_flatMap_append o (encodeChar_small c)]
  simp only [decodeUnits_encodeChar_append]
  rfl

/-! ## Torn characters -/

/-- The first unit of a pair by itself reads as a replacement, and so does a byte after it. -/
theorem decode_first_append (o : Order) (large : 0x10000 ≤ c.toNat) {bs : Bytes} (short : bs.length ≤ 1) :
    decode o (o.split (0xD800 + (c.toNat - 0x10000) / 0x400) ++ bs) =
      List.replicate (bs.length + 1) Utf8.replacement := by
  have single := Utf8.scalar c
  have alone : decodeUnits [0xD800 + (c.toNat - 0x10000) / 0x400] = [Utf8.replacement] := by
    simp [decodeUnits, charsOnto, isHigh_first large]
  rw [decode, units_split_append o (by omega)]
  match bs, short with
  | [], _ => simp [units, unitsOnto, alone]
  | [b], _ => simp [units, unitsOnto, alone]

/-- A part of a character's bytes reads as one replacement, and as another if it ends in half a unit after a
surrogate. -/
theorem decode_torn (o : Order) {k : Nat} (begun : 0 < k) (torn : k < ((encodeChar c).flatMap o.split).length) :
    decode o (((encodeChar c).flatMap o.split).take k) =
      if k = 3 then [Utf8.replacement, Utf8.replacement] else [Utf8.replacement] := by
  have two : ∀ u, ∃ a b, o.split u = [a, b] := by
    intro u
    cases o <;> exact ⟨_, _, rfl⟩
  by_cases small : c.toNat < 0x10000
  · obtain ⟨a, b, bytes⟩ := two c.toNat
    rw [encodeChar_of_small small, List.flatMap_singleton, bytes] at torn ⊢
    obtain rfl : k = 1 := by
      simp at torn
      omega
    rfl
  · have large : 0x10000 ≤ c.toNat := Nat.le_of_not_lt small
    have surrogate := fun (bs : Bytes) (short : bs.length ≤ 1) => decode_first_append o large short
    obtain ⟨a, b, first⟩ := two (0xD800 + (c.toNat - 0x10000) / 0x400)
    obtain ⟨d, e, second⟩ := two (0xDC00 + (c.toNat - 0x10000) % 0x400)
    rw [first] at surrogate
    rw [encodeChar_of_large large, List.flatMap_cons, List.flatMap_singleton, first, second] at torn ⊢
    obtain rfl | rfl | rfl : k = 1 ∨ k = 2 ∨ k = 3 := by
      simp at torn
      omega
    · rfl
    · exact surrogate [] (Nat.zero_le 1)
    · exact surrogate [d] (Nat.le_refl 1)

end

end Turnstile.Text.Utf16
