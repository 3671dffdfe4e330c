import Mathlib.Algebra.Order.BigOperators.Group.List
import Turnstile.Charset
import Turnstile.Proofs.Text.Flaws
/-!
# The length of decoded text

No character set reads more characters than there are bytes, whatever bytes are ill-formed or missing: each
character, and each replacement, stands for at least one byte of its own, and in UTF-16 for a unit or for the
byte that is left over. No bytes are passed over either (`decode_never_expands`).
-/
namespace Turnstile.Text

namespace Utf8

theorem decode_length (bs : Bytes) : (decode bs).length ≤ bs.length := by
  obtain ⟨pieces, whole, some, reads⟩ := decode_eq_iff.mp (Eq.refl (decode bs))
  have each : ∀ n ∈ pieces.map List.length, 1 ≤ n :=
    List.forall_mem_map.mpr fun piece mem => List.length_pos_of_ne_nil (some piece mem)
  rw [reads.length_eq, ← whole, List.length_flatten, ← List.length_map List.length]
  exact List.length_le_sum_of_one_le _ each

theorem decode_eq_nil_iff (bs : Bytes) : decode bs = [] ↔ bs = [] := by
  cases bs with
  | nil => exact iff_of_true decode_nil rfl
  | cons a rest => simp [decode, pieces_cons]

end Utf8

namespace Utf16

/-- A unit takes two bytes. -/
theorem unitsOnto_length (o : Order) (done : List Nat) (bs : Bytes) :
    2 * (unitsOnto o done bs).1.length + (unitsOnto o done bs).2.toNat = 2 * done.length + bs.length := by
  induction done, bs using unitsOnto.induct o with
  | case1 done => simp [unitsOnto]
  | case2 done b => simp [unitsOnto]
  | case3 done a b rest ih =>
    rw [unitsOnto]
    simp only [List.length_cons] at ih ⊢
    omega

/-- A character takes one unit or two. -/
theorem charsOnto_length (done : List Char) (us : List Nat) :
    (charsOnto done us).length ≤ done.length + us.length ∧
      2 * done.length + us.length ≤ 2 * (charsOnto done us).length := by
  induction done, us using charsOnto.induct with
  | case1 done => simp [charsOnto]
  | case2 done u =>
    simp only [charsOnto, List.length_reverse, List.length_cons, List.length_nil]
    omega
  | case3 done u v rest high low ih =>
    rw [charsOnto, if_pos high, if_pos low]
    simp only [List.length_cons] at ih ⊢
    omega
  | case4 done u v rest high other ih =>
    rw [charsOnto, if_pos high, if_neg other]
    simp only [List.length_cons] at ih ⊢
    omega
  | case5 done u v rest other low ih =>
    rw [charsOnto, if_neg other, if_pos low]
    simp only [List.length_cons] at ih ⊢
    omega
  | case6 done u v rest other plain ih =>
    rw [charsOnto, if_neg other, if_neg plain]
    simp only [List.length_cons] at ih ⊢
    omega

/-- A character takes a unit of two bytes or a pair of them, but for the one that the last byte reads as. -/
theorem decode_length (o : Order) (bs : Bytes) :
    (decode o bs).length ≤ (bs.length + 1) / 2 ∧ bs.length ≤ 4 * (decode o bs).length := by
  have paired := unitsOnto_length o [] bs
  have read := charsOnto_length [] (unitsOnto o [] bs).1
  have length : (decode o bs).length =
      (charsOnto [] (unitsOnto o [] bs).1).length + (unitsOnto o [] bs).2.toNat := by
    rw [decode, units, List.length_append, decodeUnits]
    cases (unitsOnto o [] bs).2 <;> rfl
  have last := Bool.toNat_le (unitsOnto o [] bs).2
  rw [List.length_nil] at paired read
  omega

theorem decode_eq_nil_iff (o : Order) (bs : Bytes) : decode o bs = [] ↔ bs = [] := by
  have length := decode_length o bs
  rw [← List.length_eq_zero_iff, ← List.length_eq_zero_iff]
  omega

end Utf16
end Turnstile.Text

namespace Turnstile.Charset

open Text

/-- No text has more characters than the bytes it is read from. -/
theorem decode_length (charset : Charset) (bs : Bytes) : (charset.decode bs).length ≤ bs.length := by
  have halves : (bs.length + 1) / 2 ≤ bs.length := by omega
  rw [decode, String.length_ofList]
  cases charset with
  | utf8 => exact Utf8.decode_length bs
  | latin1 => exact Nat.le_of_eq (List.length_map _)
  | ascii => exact Nat.le_of_eq (List.length_map _)
  | utf16be => exact (Utf16.decode_length .big bs).1.trans halves
  | utf16le => exact (Utf16.decode_length .little bs).1.trans halves

theorem decode_eq_empty_iff (charset : Charset) (bs : Bytes) : charset.decode bs = "" ↔ bs = [] := by
  rw [decode, String.ofList_eq_empty_iff]
  cases charset with
  | utf8 => exact Utf8.decode_eq_nil_iff bs
  | latin1 => exact List.map_eq_nil_iff
  | ascii => exact List.map_eq_nil_iff
  | utf16be => exact Utf16.decode_eq_nil_iff .big bs
  | utf16le => exact Utf16.decode_eq_nil_iff .little bs

theorem decode_never_expands :
    (∀ (charset : Charset) (bs : Bytes), (charset.decode bs).length ≤ bs.length) ∧
    (∀ bs : Bytes, (Charset.utf16be.decode bs).length ≤ (bs.length + 1) / 2 ∧
      (Charset.utf16le.decode bs).length ≤ (bs.length + 1) / 2) ∧
    (∀ (charset : Charset) (bs : Bytes), charset.decode bs = "" ↔ bs = []) ∧
    ∀ (bs : Bytes) (text : String), Charset.utf8.decode bs = text ↔
      ∃ pieces : List Bytes, pieces.flatten = bs ∧ (∀ piece ∈ pieces, piece ≠ []) ∧
        Utf8.Reads pieces text.toList := by
  refine ⟨decode_length, fun bs => ⟨?_, ?_⟩, decode_eq_empty_iff, fun bs text => ?_⟩
  · rw [decode, String.length_ofList]
    exact (Utf16.decode_length .big bs).1
  · rw [decode, String.length_ofList]
    exact (Utf16.decode_length .little bs).1
  · rw [← Utf8.decode_eq_iff, decode, ← String.toList_inj, String.toList_ofList]
    rfl

end Turnstile.Charset
