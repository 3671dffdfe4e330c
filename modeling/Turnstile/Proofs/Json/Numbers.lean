import Turnstile.Json.Printer
import Turnstile.Json.Reader
import Turnstile.Proofs.Decimal
/-!
# Reading numbers

A whole number of 64 bits is read from its decimal (`readValue_number`), and from the shortest decimal of a
finite number, in whichever way it is laid out, some number is read (`readValue_real`).
-/
namespace Turnstile.Json

open Decimal

/-! ## Digits -/

theorem skipSpace_cons {c : Char} (filled : isSpace c = false) (rest : List Char) :
    skipSpace (c :: rest) = c :: rest := by
  rw [skipSpace, List.dropWhile_cons_of_neg (by simp [filled])]

theorem ne_of_isDigit {c d : Char} (digit : c.isDigit = true) (other : d.isDigit = false) : c ≠ d := by
  rintro rfl
  exact Bool.false_ne_true (other.symm.trans digit)

theorem isSpace_of_isDigit {c : Char} (digit : c.isDigit = true) : isSpace c = false := by
  have space := ne_of_isDigit digit (d := ' ') (by decide)
  have feed := ne_of_isDigit digit (d := '\n') (by decide)
  have tab := ne_of_isDigit digit (d := '\t') (by decide)
  have carriage := ne_of_isDigit digit (d := '\r') (by decide)
  simp [isSpace, *]

theorem range_of_isDigit {c : Char} (digit : c.isDigit = true) : 48 ≤ c.toNat ∧ c.toNat ≤ 57 := by
  simpa [Char.isDigit, UInt32.le_iff_toNat_le] using digit

/-- A digit counts less than ten. -/
theorem value_lt_of_isDigit {c : Char} (digit : c.isDigit = true) : c.toNat - '0'.toNat < 10 := by
  obtain ⟨low, high⟩ := range_of_isDigit digit
  exact Nat.sub_lt_right_of_lt_add low (Nat.lt_succ_of_le high)

theorem foldl_digits (cs : List Char) :
    cs.foldl (fun n c => n * 10 + (c.toNat - '0'.toNat)) 0 = Nat.ofDigitChars 10 cs 0 := by
  simp [Nat.ofDigitChars, Nat.mul_comm]

theorem toDigits_eq_cons (n : Nat) : ∃ c rest, Nat.toDigits 10 n = c :: rest ∧ c.isDigit = true := by
  obtain ⟨c, rest, digits⟩ := List.exists_cons_of_ne_nil (Nat.toDigits_ne_nil (n := n) (b := 10))
  exact ⟨c, rest, digits,
    Nat.isDigit_of_mem_toDigits (by decide) (by decide) (digits ▸ List.mem_cons_self)⟩

theorem takeDigits_eq {cs : List Char} {significand : Nat}
    (fits : Nat.ofDigitChars 10 cs significand ≤ wholeLimit) :
    takeDigits significand cs = (Nat.ofDigitChars 10 cs significand, []) := by
  induction cs generalizing significand with
  | nil => rfl
  | cons c cs ih =>
    rw [Nat.ofDigitChars_cons] at fits ⊢
    have grown : 10 * significand + (c.toNat - '0'.toNat) ≤ wholeLimit := by
      rw [Nat.ofDigitChars_eq_ofDigitChars_zero] at fits
      have power : 0 < 10 ^ cs.length := Nat.pow_pos (by decide)
      have scaled := Nat.le_mul_of_pos_left (10 * significand + (c.toNat - '0'.toNat)) power
      omega
    rw [takeDigits, Nat.mul_comm significand]
    simp only [if_pos grown, ih fits]

/-- Only zero is written with a zero in front. -/
theorem toDigits_head {n : Nat} (zero : (Nat.toDigits 10 n).head? = some '0') : n = 0 := by
  induction n using Nat.strongRecOn with
  | ind n ih =>
    by_cases small : n < 10
    · have single : ∀ n < 10, Nat.digitChar n = '0' → n = 0 := by decide
      rw [Nat.toDigits_of_lt_base small] at zero
      exact single n small (Option.some.inj zero)
    · rw [Nat.toDigits_of_base_le (by decide) (by omega), List.head?_append,
        Option.or_of_isSome (by simp)] at zero
      have := ih (n / 10) (by omega) zero
      omega

/-- Digits, and at least one. -/
structure Digits (cs : List Char) : Prop where
  filled : cs ≠ []
  all : ∀ c ∈ cs, c.isDigit = true

theorem digits_toDigits (n : Nat) : Digits (Nat.toDigits 10 n) :=
  ⟨Nat.toDigits_ne_nil, fun _ mem => Nat.isDigit_of_mem_toDigits (by decide) (by decide) mem⟩

theorem cut_digits {cs rest : List Char} (digits : ∀ c ∈ cs, c.isDigit = true)
    (stop : ∀ c ∈ rest.head?, c.isDigit = false) :
    (cs ++ rest).takeWhile Char.isDigit = cs ∧ (cs ++ rest).dropWhile Char.isDigit = rest := by
  have taken : rest.takeWhile Char.isDigit = [] ∧ rest.dropWhile Char.isDigit = rest := by
    cases rest with
    | nil => exact ⟨rfl, rfl⟩
    | cons c rest => simp [stop c rfl]
  rw [List.takeWhile_append_of_pos digits, List.dropWhile_append_of_pos digits, taken.1, taken.2, List.append_nil]
  exact ⟨rfl, rfl⟩

/-! ## Parts of a number -/

/-- What may come after a number: nothing that would belong to it. -/
def Ends (rest : List Char) : Prop := ∀ c ∈ rest.head?, c.isDigit = false ∧ c ∉ ['.', 'e', 'E']

section

variable {whole fraction power rest : List Char}

theorem readUnsigned_plain (negative : Bool) (before : Digits whole)
    (canonical : whole.head? = some '0' → whole.length = 1)
    (stop : ∀ c ∈ rest.head?, c.isDigit = false ∧ c ≠ '.') :
    readUnsigned negative (whole ++ rest) = readPower negative whole none rest := by
  obtain ⟨taken, left⟩ := cut_digits before.all fun c mem => (stop c mem).1
  have filled : whole.isEmpty = false := by simp [before.filled]
  have plain : ¬(whole.head? = some '0' ∧ whole.length ≠ 1) := fun ⟨zero, long⟩ => long (canonical zero)
  rw [readUnsigned, taken, left]
  simp only [filled, plain, Bool.false_eq_true, if_false, Bool.and_eq_true, decide_eq_true_eq]
  cases rest with
  | nil => rfl
  | cons c rest =>
    have other := (stop c rfl).2
    simp [other]

theorem readUnsigned_point (negative : Bool) (before : Digits whole)
    (canonical : whole.head? = some '0' → whole.length = 1) (after : Digits fraction)
    (stop : ∀ c ∈ rest.head?, c.isDigit = false) :
    readUnsigned negative (whole ++ '.' :: (fraction ++ rest)) =
      readPower negative whole (some fraction) rest := by
  have point : ∀ c ∈ ('.' :: (fraction ++ rest)).head?, c.isDigit = false := by
    intro c mem
    obtain rfl : '.' = c := by simpa using mem
    rfl
  obtain ⟨taken, left⟩ := cut_digits before.all point
  obtain ⟨inner, past⟩ := cut_digits after.all stop
  have filled : whole.isEmpty = false := by simp [before.filled]
  have more : fraction.isEmpty = false := by simp [after.filled]
  have plain : ¬(whole.head? = some '0' ∧ whole.length ≠ 1) := fun ⟨zero, long⟩ => long (canonical zero)
  rw [readUnsigned, taken, left]
  simp only [filled, plain, inner, past, more, Bool.false_eq_true, if_false, Bool.and_eq_true, decide_eq_true_eq]

theorem readPower_end (negative : Bool) (whole : List Char) (fraction : Option (List Char)) (ends : Ends rest) :
    readPower negative whole fraction rest = (.number (numberOf negative whole fraction none), some rest) := by
  cases rest with
  | nil => rfl
  | cons c rest =>
    have other := (ends c rfl).2
    simp only [List.mem_cons, List.not_mem_nil, or_false, not_or] at other
    simp [readPower, other]

theorem readPower_power (negative down : Bool) (whole : List Char) (fraction : Option (List Char))
    (after : Digits power) (ends : Ends rest) :
    readPower negative whole fraction ('e' :: (if down then '-' else '+') :: (power ++ rest)) =
      (.number (numberOf negative whole fraction (some (down, power))), some rest) := by
  obtain ⟨taken, left⟩ := cut_digits after.all fun c mem => (ends c mem).1
  have filled : power.isEmpty = false := by simp [after.filled]
  cases down <;> simp [readPower, taken, left, filled]

end

/-! ## Whole numbers -/

theorem readUnsigned_toDigits (negative : Bool) (n : Nat) {rest : List Char} (ends : Ends rest) :
    readUnsigned negative (Nat.toDigits 10 n ++ rest) =
      (.number (numberOf negative (Nat.toDigits 10 n) none none), some rest) := by
  have canonical : (Nat.toDigits 10 n).head? = some '0' → (Nat.toDigits 10 n).length = 1 := by
    intro zero
    rw [toDigits_head zero]
    rfl
  have stop : ∀ c ∈ rest.head?, c.isDigit = false ∧ c ≠ '.' := by
    intro c mem
    refine ⟨(ends c mem).1, ?_⟩
    rintro rfl
    exact (ends '.' mem).2 (by decide)
  rw [readUnsigned_plain negative (digits_toDigits n) canonical stop, readPower_end negative _ none ends]

/-- The numbers that are kept whole. -/
def IsWhole (n : Int) : Prop := -(Nat.pow 2 63 : Int) ≤ n ∧ n ≤ wholeLimit

theorem isWhole_of_lt {n : Nat} (small : n < 2 ^ 64) : IsWhole (n : Int) := by
  have limit : (wholeLimit : Int) = 2 ^ 64 - 1 := by decide
  refine ⟨by omega, ?_⟩
  rw [limit]
  omega

theorem numberOf_toDigits {n : Int} (whole : IsWhole n) :
    numberOf (n < 0) (Nat.toDigits 10 n.natAbs) none none = .ok (.whole n) := by
  obtain ⟨low, high⟩ := whole
  have limit : Nat.pow 2 63 ≤ wholeLimit := by decide
  have value : Nat.ofDigitChars 10 (Nat.toDigits 10 n.natAbs) 0 = n.natAbs :=
    Nat.ofDigitChars_ten_toDigits
  have taken : takeDigits 0 (Nat.toDigits 10 n.natAbs) = (n.natAbs, []) := by
    have fits : Nat.ofDigitChars 10 (Nat.toDigits 10 n.natAbs) 0 ≤ wholeLimit := by omega
    rw [takeDigits_eq fits, value]
  rw [numberOf, taken]
  simp only
  by_cases negative : n < 0
  · have kept : (n.natAbs ≠ 0 && n.natAbs ≤ Nat.pow 2 63) = true := by
      rw [Bool.and_eq_true, decide_eq_true_eq, decide_eq_true_eq]
      omega
    have back : -(n.natAbs : Int) = n := by omega
    simp only [negative, kept, back, List.isEmpty_nil, decide_true, Bool.not_true, Bool.false_eq_true,
      if_true, if_false]
  · have back : (n.natAbs : Int) = n := by omega
    simp only [negative, back, List.isEmpty_nil, decide_false, Bool.not_false, if_true]

theorem readValue_number {n : Int} (whole : IsWhole n) {rest : List Char} (ends : Ends rest) (fuel : Nat) :
    readValue (fuel + 1) (numberChars (.whole n) ++ rest) = (.number (.ok (.whole n)), some rest) := by
  have read := readUnsigned_toDigits (n < 0) n.natAbs ends
  rw [numberOf_toDigits whole] at read
  rw [numberChars]
  by_cases negative : n < 0
  · rw [if_pos negative, ← read, decide_eq_true negative]
    rfl
  · rw [if_neg negative, List.nil_append, ← read, decide_eq_false negative]
    obtain ⟨c, cs, digits, digit⟩ := toDigits_eq_cons n.natAbs
    rw [digits, List.cons_append, readValue, skipSpace_cons (isSpace_of_isDigit digit)]
    simp [ne_of_isDigit digit, digit]

/-! ## Numbers with a point or a power -/

theorem ofDigitChars_lt {cs : List Char} (digits : ∀ c ∈ cs, c.isDigit = true) :
    Nat.ofDigitChars 10 cs 0 < 10 ^ cs.length := by
  induction cs with
  | nil => simp
  | cons c cs ih =>
    rw [List.forall_mem_cons] at digits
    have small := value_lt_of_isDigit digits.1
    have later := ih digits.2
    rw [Nat.ofDigitChars_cons, Nat.ofDigitChars_eq_ofDigitChars_zero, List.length_cons, Nat.pow_succ]
    calc
      10 ^ cs.length * (10 * 0 + (c.toNat - '0'.toNat)) + Nat.ofDigitChars 10 cs 0
          < 10 ^ cs.length * (c.toNat - '0'.toNat) + 10 ^ cs.length := by
        rw [Nat.mul_zero, Nat.zero_add]
        exact Nat.add_lt_add_left later _
      _ = 10 ^ cs.length * (c.toNat - '0'.toNat + 1) := by rw [Nat.mul_succ]
      _ ≤ 10 ^ cs.length * 10 := Nat.mul_le_mul_left _ small

/-- What a significand takes of its digits is no more than they are. -/
theorem takeDigits_le (cs : List Char) {significand : Nat} (small : significand ≤ wholeLimit) :
    (takeDigits significand cs).1 ≤ wholeLimit ∧ (takeDigits significand cs).2.length ≤ cs.length ∧
      (takeDigits significand cs).1 * 10 ^ (takeDigits significand cs).2.length ≤
        Nat.ofDigitChars 10 cs significand := by
  induction cs generalizing significand with
  | nil => exact ⟨small, Nat.le_refl 0, by simp [takeDigits]⟩
  | cons c cs ih =>
    rw [takeDigits]
    split
    · rename_i fits
      obtain ⟨low, short, below⟩ := ih fits
      refine ⟨low, short.trans (Nat.le_succ _), ?_⟩
      rw [Nat.ofDigitChars_cons, Nat.mul_comm 10]
      exact below
    · refine ⟨small, Nat.le_refl _, ?_⟩
      rw [Nat.ofDigitChars_eq_ofDigitChars_zero, Nat.mul_comm]
      exact Nat.le_add_right _ _

section

variable (negative : Bool) {whole : List Char}

/-- Up to sixteen digits before the point are all taken. -/
theorem takeDigits_few (digits : ∀ c ∈ whole, c.isDigit = true) (few : whole.length ≤ 16) :
    takeDigits 0 whole = (Nat.ofDigitChars 10 whole 0, []) ∧ Nat.ofDigitChars 10 whole 0 ≤ wholeLimit := by
  have small : Nat.ofDigitChars 10 whole 0 ≤ wholeLimit := by
    have limit : 10 ^ 16 ≤ wholeLimit := by decide
    exact (ofDigitChars_lt digits).le.trans ((Nat.pow_le_pow_right (by decide) few).trans limit)
  exact ⟨takeDigits_eq small, small⟩

theorem numberOf_fraction (digits : ∀ c ∈ whole, c.isDigit = true) (few : whole.length ≤ 16)
    (fraction : List Char) : ∃ x, numberOf negative whole (some fraction) none = .ok (.real x) := by
  obtain ⟨taken, small⟩ := takeDigits_few digits few
  obtain ⟨low, -, -⟩ := takeDigits_le fraction small
  have down : ((0 : Nat) : Int) -
      (fraction.length - (takeDigits (Nat.ofDigitChars 10 whole 0) fraction).2.length : Nat) ≤ 0 := by omega
  obtain ⟨x, read⟩ := ofScientific?_down negative (Nat.lt_of_le_of_lt low (by decide)) down
  refine ⟨x, ?_⟩
  rw [numberOf, taken]
  simp only [Option.getD_some, List.length_nil, numberOf.real, read]

/-- A number with a power is read when its significand as written, without the point, and the power that
goes with it are in range. -/
theorem numberOf_power {down : Bool} {fraction : Option (List Char)} {power : List Char} {n : Nat} {k : Int}
    (digits : ∀ c ∈ whole, c.isDigit = true) (few : whole.length ≤ 16)
    (significand : Nat.ofDigitChars 10 (whole ++ fraction.getD []) 0 = n)
    (small : Nat.ofDigitChars 10 power 0 ≤ Nat.pow 2 31 - 1)
    (exponent : k = (if down then -(Nat.ofDigitChars 10 power 0 : Int) else Nat.ofDigitChars 10 power 0) -
      (fraction.getD []).length)
    (range : (n : ℚ) * 10 ^ k ≤ Magnitude.safe ∨
      n < 2 ^ 64 ∧ ∀ negative, ∃ x, Binary64.ofScientific? negative n k = some x) :
    ∃ x, numberOf negative whole fraction (some (down, power)) = .ok (.real x) := by
  obtain ⟨taken, fits⟩ := takeDigits_few digits few
  rw [Nat.ofDigitChars_append] at significand
  have read : ∃ x, Binary64.ofScientific? negative
      (takeDigits (Nat.ofDigitChars 10 whole 0) (fraction.getD [])).1
      (k + (takeDigits (Nat.ofDigitChars 10 whole 0) (fraction.getD [])).2.length) = some x := by
    rcases range with below | ⟨low, read⟩
    · obtain ⟨low, -, cut⟩ := takeDigits_le (fraction.getD []) fits
      refine ofScientific?_ok negative (Nat.lt_of_le_of_lt low (by decide)) (le_trans ?_ below)
      rw [significand] at cut
      rw [zpow_add₀ (by norm_num), zpow_natCast, mul_comm (10 ^ k), ← mul_assoc]
      gcongr
      exact_mod_cast cut
    · have all : takeDigits (Nat.ofDigitChars 10 whole 0) (fraction.getD []) = (n, []) := by
        rw [← significand]
        refine takeDigits_eq ?_
        rw [significand]
        exact Nat.le_sub_one_of_lt low
      rw [all, List.length_nil, Nat.cast_zero, Int.add_zero]
      exact read negative
  obtain ⟨x, read⟩ := read
  refine ⟨x, ?_⟩
  have short := (takeDigits_le (fraction.getD []) fits).2.1
  have same : (if down then ((0 : Nat) : Int) - ((fraction.getD []).length -
          (takeDigits (Nat.ofDigitChars 10 whole 0) (fraction.getD [])).2.length : Nat) - Nat.ofDigitChars 10 power 0
        else ((0 : Nat) : Int) - ((fraction.getD []).length -
          (takeDigits (Nat.ofDigitChars 10 whole 0) (fraction.getD [])).2.length : Nat) + Nat.ofDigitChars 10 power 0) =
      k + (takeDigits (Nat.ofDigitChars 10 whole 0) (fraction.getD [])).2.length := by
    rw [exponent]
    cases down <;> simp <;> omega
  rw [numberOf, taken]
  cases fraction <;>
    simp only [List.length_nil, numberOf.real, foldl_digits, if_pos small, same, read]

end

/-! ## Shortest decimals -/

section

variable (negative : Bool) {n : Nat} {k : Int}

/-- A decimal that is written out has digits before the point, sixteen at most and no zero in front of
others, and digits after it. -/
theorem exists_parts_of_pointed (none : n = 0 → k ≤ 0) (few : k + (Nat.toDigits 10 n).length ≤ 16) :
    ∃ whole fraction, pointed (Nat.toDigits 10 n) (k + (Nat.toDigits 10 n).length) = whole ++ '.' :: fraction ∧
      Digits whole ∧ Digits fraction ∧ (whole.head? = some '0' → whole.length = 1) ∧ whole.length ≤ 16 := by
  have digits := digits_toDigits n
  have positive : 0 < (Nat.toDigits 10 n).length := Nat.length_toDigits_pos
  have zeros (m : Nat) : ∀ c ∈ List.replicate m '0', c.isDigit = true := by
    intro c mem
    rw [List.eq_of_mem_replicate mem]
    rfl
  rw [pointed]
  split
  · refine ⟨['0'], _, rfl, ⟨List.cons_ne_nil _ _, zeros 1⟩, ⟨?_, ?_⟩, fun _ => rfl, by decide⟩
    · simp [digits.filled]
    · exact fun c mem => (List.mem_append.mp mem).elim (zeros _ c) (digits.all c)
  split
  · rename_i some all
    refine ⟨Nat.toDigits 10 n ++ List.replicate _ '0', ['0'], by rw [List.append_assoc], ⟨?_, ?_⟩,
      ⟨List.cons_ne_nil _ _, zeros 1⟩, ?_, ?_⟩
    · simp [digits.filled]
    · exact fun c mem => (List.mem_append.mp mem).elim (digits.all c) (zeros _ c)
    · intro zero
      rw [List.head?_append_of_ne_nil _ digits.filled] at zero
      obtain rfl := toDigits_head zero
      have := none rfl
      rw [Nat.toDigits_zero] at some all ⊢
      simp only [List.length_singleton, List.length_append, List.length_replicate] at some all ⊢
      omega
    · rw [List.length_append, List.length_replicate]
      omega
  · rename_i some part
    refine ⟨_, _, rfl, ⟨?_, ?_⟩, ⟨?_, ?_⟩, ?_, ?_⟩
    · rw [← List.length_pos_iff, List.length_take]
      omega
    · exact fun c mem => digits.all c (List.mem_of_mem_take mem)
    · rw [← List.length_pos_iff, List.length_drop]
      omega
    · exact fun c mem => digits.all c (List.mem_of_mem_drop mem)
    · intro zero
      rw [List.head?_take, if_neg (by omega)] at zero
      obtain rfl := toDigits_head zero
      rw [Nat.toDigits_zero] at some part
      simp only [List.length_singleton] at some part
      omega
    · rw [List.length_take]
      omega

theorem readUnsigned_pointed (none : n = 0 → k ≤ 0) (few : k + (Nat.toDigits 10 n).length ≤ 16) :
    ∃ y, ∀ rest, Ends rest →
      readUnsigned negative (pointed (Nat.toDigits 10 n) (k + (Nat.toDigits 10 n).length) ++ rest) =
        (.number (.ok (.real y)), some rest) := by
  obtain ⟨whole, fraction, laid, before, after, canonical, short⟩ := exists_parts_of_pointed none few
  obtain ⟨y, read⟩ := numberOf_fraction negative before.all short fraction
  refine ⟨y, fun rest ends => ?_⟩
  rw [laid, List.append_assoc, List.cons_append,
    readUnsigned_point negative before canonical after fun c mem => (ends c mem).1,
    readPower_end negative _ _ ends, read]

/-- A decimal with a power is taken apart into its first digit, the others and the power. -/
theorem readUnsigned_parts {d : Char} {ds rest : List Char} (digits : ∀ c ∈ d :: ds, c.isDigit = true)
    (power : Int) (ends : Ends rest) :
    readUnsigned negative (powered (d :: ds) power ++ rest) =
      (.number (numberOf negative [d] (if ds = [] then none else some ds)
        (some (decide (power < 0), Nat.toDigits 10 power.natAbs))), some rest) := by
  rw [List.forall_mem_cons] at digits
  have first : Digits [d] := ⟨List.cons_ne_nil _ _, by simpa using digits.1⟩
  have alone : [d].head? = some '0' → [d].length = 1 := fun _ => rfl
  have sign : (if power < 0 then '-' else '+') = if decide (power < 0) then '-' else '+' := by
    by_cases down : power < 0 <;> simp [down]
  have stop (rest : List Char) : ∀ c ∈ ('e' :: rest).head?, c.isDigit = false ∧ c ≠ '.' := by
    intro c mem
    obtain rfl : 'e' = c := by simpa using mem
    decide
  cases ds with
  | nil =>
    have laid : powered [d] power ++ rest =
        [d] ++ 'e' :: (if decide (power < 0) then '-' else '+') :: (Nat.toDigits 10 power.natAbs ++ rest) := by
      rw [powered, sign]
      rfl
    rw [laid, readUnsigned_plain negative first alone (stop _),
      readPower_power negative _ _ _ (digits_toDigits _) ends, if_pos rfl]
  | cons e es =>
    have after : Digits (e :: es) := ⟨List.cons_ne_nil _ _, digits.2⟩
    have laid : powered (d :: e :: es) power ++ rest = [d] ++ '.' :: (e :: es ++
        'e' :: (if decide (power < 0) then '-' else '+') :: (Nat.toDigits 10 power.natAbs ++ rest)) := by
      rw [powered, sign]
      simp
    rw [laid, readUnsigned_point negative first alone after fun c mem => (stop _ c mem).1,
      readPower_power negative _ _ _ (digits_toDigits _) ends, if_neg (List.cons_ne_nil _ _)]

theorem readUnsigned_powered (length : (Nat.toDigits 10 n).length ≤ 309 + 350) (low : -350 ≤ k) (high : k ≤ 310)
    (range : (n : ℚ) * 10 ^ k ≤ Magnitude.safe ∨
      n < 2 ^ 64 ∧ ∀ negative, ∃ x, Binary64.ofScientific? negative n k = some x) :
    ∃ y, ∀ rest, Ends rest →
      readUnsigned negative (powered (Nat.toDigits 10 n) (k + (Nat.toDigits 10 n).length - 1) ++ rest) =
        (.number (.ok (.real y)), some rest) := by
  have all := (digits_toDigits n).all
  have value : Nat.ofDigitChars 10 (Nat.toDigits 10 n) 0 = n := Nat.ofDigitChars_ten_toDigits
  obtain ⟨d, ds, digits⟩ := List.exists_cons_of_ne_nil (Nat.toDigits_ne_nil (n := n) (b := 10))
  rw [digits] at all value length ⊢
  rw [List.length_cons] at length ⊢
  obtain ⟨power, same⟩ : ∃ power, k + (ds.length + 1 : Nat) - 1 = power := ⟨_, rfl⟩
  rw [same]
  have counted : Nat.ofDigitChars 10 (Nat.toDigits 10 power.natAbs) 0 = power.natAbs :=
    Nat.ofDigitChars_ten_toDigits
  have limit : Nat.ofDigitChars 10 (Nat.toDigits 10 power.natAbs) 0 ≤ Nat.pow 2 31 - 1 := by
    have large : 1000 ≤ Nat.pow 2 31 - 1 := by decide
    omega
  have fraction : (if ds = [] then none else some ds : Option (List Char)).getD [] = ds := by
    split <;> simp_all
  obtain ⟨y, read⟩ : ∃ y, numberOf negative [d] (if ds = [] then none else some ds)
      (some (decide (power < 0), Nat.toDigits 10 power.natAbs)) = .ok (.real y) := by
    refine numberOf_power negative (by simpa using all d List.mem_cons_self) (by simp) ?_ limit ?_ range
    · rw [fraction]
      exact value
    · simp only [fraction, counted, decide_eq_true_eq]
      split <;> omega
  refine ⟨y, fun rest ends => ?_⟩
  rw [readUnsigned_parts negative all power ends, read]

theorem readUnsigned_layOut (few : (Nat.toDigits 10 n).length ≤ 309 + 350) (low : -350 ≤ k) (high : k ≤ 310)
    (none : n = 0 → k ≤ 0)
    (range : (n : ℚ) * 10 ^ k ≤ Magnitude.safe ∨
      n < 2 ^ 64 ∧ ∀ negative, ∃ x, Binary64.ofScientific? negative n k = some x) :
    ∃ y, ∀ rest, Ends rest → readUnsigned negative (layOut (Nat.toDigits 10 n) k ++ rest) =
      (.number (.ok (.real y)), some rest) := by
  rw [layOut]
  split
  · rename_i plain
    rw [Int.sub_add_cancel]
    exact readUnsigned_pointed negative none (by omega)
  · exact readUnsigned_powered negative few low high range

/-- The text of a number that is laid out begins with a digit. -/
theorem layOut_head (n : Nat) (k : Int) :
    ∃ c rest, layOut (Nat.toDigits 10 n) k = c :: rest ∧ c.isDigit = true := by
  obtain ⟨d, ds, digits, digit⟩ := toDigits_eq_cons n
  rw [layOut, digits]
  split
  · rw [pointed]
    split
    · exact ⟨_, _, rfl, rfl⟩
    split
    · exact ⟨d, _, rfl, digit⟩
    · rename_i some _
      obtain ⟨m, same⟩ : ∃ m, (k + (d :: ds).length - 1 + 1).toNat = m + 1 :=
        Nat.exists_eq_add_one_of_ne_zero (by omega)
      rw [same]
      exact ⟨d, _, rfl, digit⟩
  · exact ⟨d, _, rfl, digit⟩

end

/-- The text of a number: its sign, and its shortest decimal. -/
theorem text_toList (x : Binary64) : x.text.toList =
    (if x.negative then ['-'] else []) ++ layOut (Nat.toDigits 10 x.size.shortest.1) x.size.shortest.2 := by
  rw [Binary64.text, String.toList_ofList]

/-- Some number is read from the text of a finite one, whatever comes after it. -/
theorem readValue_real {x : Binary64} (finite : x.size.Finite) :
    ∃ y, ∀ fuel rest, Ends rest →
      readValue (fuel + 1) (numberChars (.real x) ++ rest) = (.number (.ok (.real y)), some rest) := by
  obtain ⟨-, low, high, none⟩ := x.size.shortest_le
  obtain ⟨y, read⟩ := readUnsigned_layOut x.negative (shortest_length finite) low high none
    (shortest_ok finite)
  refine ⟨y, fun fuel rest ends => ?_⟩
  have read := read rest ends
  rw [numberChars, text_toList]
  cases negative : x.negative with
  | true =>
    rw [negative] at read
    rw [if_pos rfl, ← read]
    rfl
  | false =>
    rw [negative] at read
    rw [if_neg Bool.false_ne_true, List.nil_append, ← read]
    obtain ⟨c, cs, text, digit⟩ := layOut_head x.size.shortest.1 x.size.shortest.2
    rw [text, List.cons_append, readValue, skipSpace_cons (isSpace_of_isDigit digit)]
    simp [ne_of_isDigit digit, digit]

end Turnstile.Json
