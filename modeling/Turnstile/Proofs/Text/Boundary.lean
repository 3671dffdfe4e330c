import Turnstile.Charset
import Turnstile.Proofs.Text.Flaws
import Turnstile.Proofs.Text.Utf16
/-!
# Boundaries between characters

Bytes that are cut where no character is torn are read the same in parts as in one, whatever is ill-formed in
them (`decodeChars_append`). Where that is so depends on the character set.
-/
namespace Turnstile

namespace Text.Utf8

/-- A place between two pieces: neither a character nor a flaw that begins in the first bytes goes on in the
others. -/
def Boundary (first rest : Bytes) : Prop :=
  ∃ earlier later, pieces (first ++ rest) = earlier ++ later ∧ earlier.flatMap Piece.bytes = first

/-- Bytes that are cut between two pieces have the pieces of both parts. -/
theorem pieces_append {first rest : Bytes} (boundary : Boundary first rest) :
    pieces (first ++ rest) = pieces first ++ pieces rest := by
  obtain ⟨earlier, later, cut, covered⟩ := boundary
  induction earlier generalizing first with
  | nil =>
    cases covered
    rw [List.flatMap_nil, pieces_nil]
    rfl
  | cons piece earlier ih =>
    cases bytes : first ++ rest with
    | nil =>
      obtain ⟨rfl, rfl⟩ := List.append_eq_nil_iff.mp bytes
      rw [pieces_nil]
      rfl
    | cons a tail =>
      rw [bytes, pieces_cons] at cut
      obtain ⟨rfl, onward⟩ := List.cons.inj cut
      rw [List.flatMap_cons] at covered
      have left : (next a tail).2 = earlier.flatMap Piece.bytes ++ rest := by
        have whole := next_bytes a tail
        rw [← bytes, ← covered, List.append_assoc] at whole
        exact List.append_cancel_left whole
      obtain ⟨own, starts, same⟩ := next_cut (Prod.ext rfl left :
        next a tail = ((next a tail).1, earlier.flatMap Piece.bytes ++ rest))
      have begun : first = a :: (own ++ earlier.flatMap Piece.bytes) := by
        rw [← covered, starts]
        rfl
      rw [left] at onward
      rw [pieces_cons, left, ih onward rfl, begun, pieces_cons, same]
      rfl

/-- A text that is encoded ends at a boundary, whatever comes after it. -/
theorem boundary_encode (cs : List Char) (rest : Bytes) : Boundary (encode cs) rest := by
  refine ⟨_, _, pieces_encode_append cs rest, ?_⟩
  rw [List.flatMap_map]
  rfl

end Text.Utf8

namespace Text.Utf16

/-- A place between two units that are not a pair, or the end. -/
def Boundary (o : Order) (first rest : Bytes) : Prop :=
  rest = [] ∨ first.length % 2 = 0 ∧ ∀ u ∈ (units o first).1.getLast?, ∀ v ∈ (units o rest).1.head?,
    ¬ (isHigh u = true ∧ isLow v = true)

section

variable (o : Order)

theorem units_cons (a b : UInt8) (bs : Bytes) :
    units o (a :: b :: bs) = (o.join a b :: (units o bs).1, (units o bs).2) := by
  rw [units, unitsOnto, unitsOnto_eq]
  rfl

/-- Units that are whole are the same whatever comes after them. -/
theorem units_append (rest : Bytes) : ∀ {first : Bytes}, first.length % 2 = 0 →
    units o (first ++ rest) = ((units o first).1 ++ (units o rest).1, (units o rest).2) ∧
      (units o first).2 = false
  | [], _ => ⟨rfl, rfl⟩
  | [_], odd => absurd odd (by simp)
  | a :: b :: first, even => by
    have fewer : first.length % 2 = 0 := by
      simp only [List.length_cons] at even
      omega
    obtain ⟨whole, paired⟩ := units_append rest fewer
    rw [List.cons_append, List.cons_append, units_cons, units_cons, whole]
    exact ⟨rfl, paired⟩

end

theorem decodeUnits_pair {u v : Nat} (high : isHigh u = true) (low : isLow v = true) (us : List Nat) :
    decodeUnits (u :: v :: us) = joinPair u v :: decodeUnits us := by
  rw [decodeUnits, charsOnto, if_pos high, if_pos low, charsOnto_eq]
  rfl

/-- The character of a unit by itself. -/
def single (u : Nat) : Char := if isHigh u || isLow u then Utf8.replacement else Char.ofNat u

/-- A unit that is not the first of a pair is read by itself. -/
theorem decodeUnits_single {u : Nat} {us : List Nat}
    (alone : ∀ v ∈ us.head?, ¬ (isHigh u = true ∧ isLow v = true)) :
    decodeUnits (u :: us) = single u :: decodeUnits us := by
  cases us with
  | nil => rfl
  | cons v us =>
    rw [decodeUnits, charsOnto]
    have apart := alone v rfl
    by_cases high : isHigh u = true
    · have other : ¬ isLow v = true := fun low => apart ⟨high, low⟩
      rw [if_pos high, if_neg other, charsOnto_eq]
      simp [single, high]
    · by_cases low : isLow u = true
      · rw [if_neg high, if_pos low, charsOnto_eq]
        simp [single, low]
      · rw [if_neg high, if_neg low, charsOnto_eq]
        simp [single, high, low]

/-- Units that are cut apart where no pair is torn read the same. -/
theorem decodeUnits_append (vs : List Nat) : ∀ {us : List Nat},
    (∀ u ∈ us.getLast?, ∀ v ∈ vs.head?, ¬ (isHigh u = true ∧ isLow v = true)) →
    decodeUnits (us ++ vs) = decodeUnits us ++ decodeUnits vs
  | [], _ => rfl
  | [u], apart => decodeUnits_single (apart u rfl)
  | u :: v :: us, apart => by
    by_cases pair : isHigh u = true ∧ isLow v = true
    · have rest : decodeUnits (us ++ vs) = decodeUnits us ++ decodeUnits vs := by
        apply decodeUnits_append vs
        intro w last
        cases us with
        | nil => cases last
        | cons x us => exact apart w (by simpa using last)
      rw [List.cons_append, List.cons_append, decodeUnits_pair pair.1 pair.2, decodeUnits_pair pair.1 pair.2, rest]
      rfl
    · have alone : ∀ more : List Nat, ∀ w ∈ (v :: more).head?, ¬ (isHigh u = true ∧ isLow w = true) := by
        rintro more w ⟨⟩
        exact pair
      have rest : decodeUnits (v :: us ++ vs) = decodeUnits (v :: us) ++ decodeUnits vs := by
        apply decodeUnits_append vs
        intro w last
        exact apart w (by simpa using last)
      rw [List.cons_append, List.cons_append, decodeUnits_single (alone _), decodeUnits_single (alone _),
        ← List.cons_append, rest]
      rfl
termination_by us => us.length

theorem decode_append (o : Order) {first rest : Bytes} (boundary : Boundary o first rest) :
    decode o (first ++ rest) = decode o first ++ decode o rest := by
  rcases boundary with rfl | ⟨even, apart⟩
  · rw [List.append_nil]
    exact (List.append_nil _).symm
  · obtain ⟨whole, paired⟩ := units_append o rest even
    simp only [decode, whole, paired, decodeUnits_append _ apart, Bool.false_eq_true, if_false,
      List.append_nil, List.append_assoc]

end Text.Utf16

namespace Charset

open Text

/-- A place at which bytes can be cut without tearing a character. -/
def Boundary : Charset → Bytes → Bytes → Prop
  | .utf8, first, rest => Utf8.Boundary first rest
  | .utf16be, first, rest => Utf16.Boundary .big first rest
  | .utf16le, first, rest => Utf16.Boundary .little first rest
  | .latin1, _, _ | .ascii, _, _ => True

theorem decodeChars_append {charset : Charset} {first rest : Bytes} (boundary : charset.Boundary first rest) :
    charset.decodeChars (first ++ rest) = charset.decodeChars first ++ charset.decodeChars rest := by
  cases charset with
  | utf8 =>
    show Utf8.decode (first ++ rest) = Utf8.decode first ++ Utf8.decode rest
    rw [Utf8.decode, Utf8.pieces_append boundary, List.map_append]
    rfl
  | latin1 => exact List.map_append
  | ascii => exact List.map_append
  | utf16be => exact Utf16.decode_append .big boundary
  | utf16le => exact Utf16.decode_append .little boundary

end Charset
end Turnstile
