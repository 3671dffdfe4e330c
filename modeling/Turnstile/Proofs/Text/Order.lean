import Mathlib.Data.Char
import Mathlib.Data.List.Lex
import Mathlib.Tactic.SplitIfs
import Turnstile.Proofs.Text.Utf8
/-!
# The order of texts and of their bytes

Texts are compared by their characters. UTF-8 keeps that order: of two texts the one with the smaller bytes
is the smaller one (`encode_lt_iff`).
-/
namespace Turnstile.Text.Utf8

/-- The bytes of a smaller character are smaller, whatever comes after them. -/
theorem encodeChar_lt {c d : Char} (less : c < d) (more more' : Bytes) :
    String.utf8EncodeChar c ++ more < String.utf8EncodeChar d ++ more' := by
  have smaller : c.val.toNat < d.val.toNat := less
  have bound : d.val.toNat < 0x110000 := by
    have single := scalar d
    simp only [Char.toNat] at single
    omega
  rw [String.utf8EncodeChar, String.utf8EncodeChar]
  -- the first bytes tell numbers of bytes apart; for one number of bytes the digits decide
  split_ifs
  all_goals
    simp only [List.cons_append, List.nil_append, List.cons_lt_cons_iff, UInt8.lt_iff_toNat_lt,
      ← UInt8.toNat_inj]
    simp (disch := omega) only [UInt8.toNat_ofNat', Nat.mod_eq_of_lt]
    omega

theorem encode_lt {cs ds : List Char} (less : cs < ds) : encode cs < encode ds := by
  induction cs generalizing ds with
  | nil =>
    cases ds with
    | nil => exact absurd less (List.lt_irrefl [])
    | cons d ds =>
      obtain ⟨a, rest, bytes, -⟩ := next_encodeChar d (encode ds)
      rw [encode, encode, List.flatMap_cons, bytes]
      exact List.nil_lt_cons _ _
  | cons c cs ih =>
    cases ds with
    | nil => exact absurd less (List.not_lt_nil _)
    | cons d ds =>
      rw [encode, encode, List.flatMap_cons, List.flatMap_cons]
      rcases List.cons_lt_cons_iff.mp less with first | ⟨rfl, later⟩
      · exact encodeChar_lt first _ _
      · exact List.append_left_lt (ih later)

/-- A text is smaller than another exactly when its bytes are. -/
theorem encode_lt_iff {s t : String} : encode s.toList < encode t.toList ↔ s < t := by
  rw [String.lt_iff]
  refine ⟨fun less => ?_, encode_lt⟩
  rcases lt_trichotomy s.toList t.toList with lt | eq | gt
  · exact lt
  · rw [eq] at less
    exact absurd less (List.lt_irrefl _)
  · exact absurd less (List.lt_asymm (encode_lt gt))

theorem encode_le_iff {s t : String} : encode s.toList ≤ encode t.toList ↔ s ≤ t := by
  rw [← List.not_lt, encode_lt_iff, String.not_lt]

end Turnstile.Text.Utf8
