import Mathlib
import Turnstile.Decimal.Shortest
/-!
# How far rounding goes

The sizes of numbers as rationals, and how far rounded steps lead from them: a step is off by at most half a
unit (`nearest_ok`). So the reading of a decimal stays in range when the decimal lies a little below the
largest size (`ofScientific?_ok`), and the shortest decimal of a size lies no more than half a unit above it
(`shortest_le`).
-/
namespace Turnstile.Decimal

namespace Magnitude

/-! ## Rounding -/

/-- The size as a rational. -/
def value (x : Magnitude) : ℚ := x.mantissa * 2 ^ x.exponent

theorem value_nonneg (x : Magnitude) : 0 ≤ x.value := by
  unfold value
  positivity

theorem zero_value : zero.value = 0 := by simp [zero, value]

theorem fraction_pos (x : Magnitude) : 0 < x.fraction.2 := by
  rw [fraction]
  split
  · exact Nat.pow_pos (by decide)
  · exact Nat.one_pos

theorem fraction_value (x : Magnitude) : (x.fraction.1 : ℚ) / x.fraction.2 = x.value := by
  rw [fraction, value]
  split
  · rename_i negative
    obtain ⟨n, same⟩ : ∃ n : Nat, x.exponent = -n := ⟨x.exponent.natAbs, by omega⟩
    simp [same, zpow_neg, div_eq_mul_inv]
  · rename_i positive
    obtain ⟨n, same⟩ : ∃ n : Nat, x.exponent = n := ⟨x.exponent.toNat, by omega⟩
    simp [same]

/-- A quotient is rounded by no more than a half. -/
theorem divideEven_near (num : Nat) {den : Nat} (pos : 0 < den) :
    |(divideEven num den : ℚ) - num / den| ≤ 1 / 2 := by
  have whole : (num : ℚ) = den * (num / den : Nat) + (num % den : Nat) := by
    exact_mod_cast (Nat.div_add_mod num den).symm
  have den_pos : (0 : ℚ) < den := by exact_mod_cast pos
  have quotient : (num : ℚ) / den = (num / den : Nat) + (num % den : Nat) / den := by
    rw [whole]
    field_simp
  have low : (0 : ℚ) ≤ (num % den : Nat) / den := by positivity
  have high : ((num % den : Nat) : ℚ) / den ≤ 1 :=
    (div_le_one den_pos).mpr (by exact_mod_cast (Nat.mod_lt num pos).le)
  have up (large : den ≤ 2 * (num % den)) : (1 : ℚ) / 2 ≤ (num % den : Nat) / den := by
    rw [div_le_div_iff₀ two_pos den_pos]
    exact_mod_cast (by omega : 1 * den ≤ (num % den) * 2)
  have down (small : 2 * (num % den) ≤ den) : ((num % den : Nat) : ℚ) / den ≤ 1 / 2 := by
    rw [div_le_div_iff₀ den_pos two_pos]
    exact_mod_cast (by omega : (num % den) * 2 ≤ 1 * den)
  rw [divideEven, quotient, abs_le]
  split
  · rename_i small
    have := down small.le
    constructor <;> linarith
  split
  · rename_i large
    have := up large.le
    push_cast
    constructor <;> linarith
  · rename_i small large
    have below := down (by omega)
    have above := up (by omega)
    split
    · constructor <;> linarith
    · push_cast
      constructor <;> linarith

theorem units_of_neg (num den : Nat) {e : Int} (negative : e < 0) :
    ((num * Nat.pow 2 e.natAbs : Nat) : ℚ) / den = num / den / 2 ^ e := by
  obtain ⟨n, rfl⟩ : ∃ n : Nat, e = -n := ⟨e.natAbs, by omega⟩
  simp [zpow_neg, div_eq_mul_inv, mul_right_comm]

theorem units_of_nonneg (num den : Nat) {e : Int} (nonneg : ¬e < 0) :
    (num : ℚ) / (den * Nat.pow 2 e.toNat : Nat) = num / den / 2 ^ e := by
  obtain ⟨n, rfl⟩ : ∃ n : Nat, e = n := ⟨e.toNat, by omega⟩
  simp [div_div]

theorem inUnits_near (num : Nat) {den : Nat} (pos : 0 < den) (e : Int) :
    |(inUnits num den e : ℚ) - num / den / 2 ^ e| ≤ 1 / 2 := by
  rw [inUnits]
  split
  · rename_i negative
    rw [← units_of_neg num den negative]
    exact divideEven_near _ pos
  · rename_i nonneg
    rw [← units_of_nonneg num den nonneg]
    exact divideEven_near _ (Nat.mul_pos pos (Nat.pow_pos (by decide)))

theorem unitsBelow_le (num den : Nat) (e : Int) : (unitsBelow num den e : ℚ) ≤ num / den / 2 ^ e := by
  rw [unitsBelow]
  split
  · rename_i negative
    rw [← units_of_neg num den negative]
    exact Nat.cast_div_le
  · rename_i nonneg
    rw [← units_of_nonneg num den nonneg]
    exact Nat.cast_div_le

/-- The unit is the least one, or so small that the quotient has 53 bits. -/
theorem unitFor_cases {num den : Nat} (some : num ≠ 0) (pos : 0 < den) :
    unitFor num den = -1074 ∨ 2 ^ (52 : Int) * 2 ^ unitFor num den ≤ (num : ℚ) / den := by
  have low : (2 : ℚ) ^ (num.log2 : Int) ≤ num := by
    rw [zpow_natCast]
    exact_mod_cast Nat.log2_self_le some
  have high : (den : ℚ) ≤ 2 ^ ((den.log2 : Int) + 1) := by
    exact_mod_cast Nat.lt_log2_self.le
  have bits : 2 ^ (52 : Int) * 2 ^ ((num.log2 : Int) - den.log2 - 53) ≤ (num : ℚ) / den := by
    have den_pos : (0 : ℚ) < den := by exact_mod_cast pos
    rw [le_div_iff₀ den_pos, ← zpow_add₀ two_ne_zero]
    calc
      (2 : ℚ) ^ ((52 : Int) + ((num.log2 : Int) - den.log2 - 53)) * den
          ≤ 2 ^ ((52 : Int) + ((num.log2 : Int) - den.log2 - 53)) * 2 ^ ((den.log2 : Int) + 1) := by gcongr
      _ = 2 ^ (num.log2 : Int) := by
        rw [← zpow_add₀ two_ne_zero]
        congr 1
        omega
      _ ≤ num := low
  rw [unitFor]
  split
  · rcases max_cases ((num.log2 : Int) - den.log2 - 53) (-1074) with ⟨same, -⟩ | ⟨same, -⟩
    · exact .inr (by rw [same]; exact bits)
    · exact .inl same
  · rename_i many
    rcases max_cases ((num.log2 : Int) - den.log2 - 53 + 1) (-1074) with ⟨same, -⟩ | ⟨same, -⟩
    · rw [same]
      have below := unitsBelow_le num den ((num.log2 : Int) - den.log2 - 53)
      have large : (2 : ℚ) ^ (53 : Int) ≤ unitsBelow num den ((num.log2 : Int) - den.log2 - 53) := by
        rw [not_lt] at many
        exact_mod_cast many
      right
      calc
        (2 : ℚ) ^ (52 : Int) * 2 ^ ((num.log2 : Int) - den.log2 - 53 + 1)
            = 2 ^ (53 : Int) * 2 ^ ((num.log2 : Int) - den.log2 - 53) := by
          rw [← zpow_add₀ two_ne_zero, ← zpow_add₀ two_ne_zero]
          congr 1
          omega
        _ ≤ _ := (le_div_iff₀ (by positivity)).mp (large.trans below)
    · exact .inl same

/-- Half a unit, for quotients of 53 bits. -/
def half : ℚ := 2 ^ (-53 : Int)

/-- Half of the least unit. -/
def least : ℚ := 2 ^ (-1075 : Int)

theorem half_pos : 0 < half := by
  unfold half
  positivity

theorem half_small : half ≤ 1 / 8 := by norm_num [half]

theorem least_pos : 0 < least := by
  unfold least
  positivity

theorem least_le : least ≤ half := zpow_le_zpow_right₀ one_le_two (by decide)

/-- How far rounding may lead from a quotient. -/
def slack (q : ℚ) : ℚ := q * half + least

theorem unitFor_le {num den : Nat} (some : num ≠ 0) (pos : 0 < den) :
    (2 : ℚ) ^ unitFor num den / 2 ≤ slack (num / den) := by
  have quotient : (0 : ℚ) ≤ num / den := by positivity
  rw [slack]
  rcases unitFor_cases some pos with small | bits
  · have same : (2 : ℚ) ^ unitFor num den / 2 = least := by
      rw [small, div_eq_mul_inv, ← zpow_sub_one₀ two_ne_zero]
      rfl
    have none := mul_nonneg quotient half_pos.le
    linarith
  · have same : (2 : ℚ) ^ unitFor num den / 2 = 2 ^ (52 : Int) * 2 ^ unitFor num den * half := by
      norm_num [half]
      ring
    rw [same]
    linarith [mul_le_mul_of_nonneg_right bits half_pos.le, least_pos]

/-- A quotient that stays in range is rounded, and not far. -/
theorem nearest_ok {num den : Nat} (pos : 0 < den) (fits : (num : ℚ) / den + slack (num / den) < 2 ^ (1024 : Int)) :
    ∃ y, nearest num den = some y ∧ |y.value - num / den| ≤ slack (num / den) := by
  by_cases none : num = 0
  · subst none
    refine ⟨zero, rfl, ?_⟩
    rw [zero_value, slack]
    simpa using least_pos.le
  have near := inUnits_near num pos (unitFor num den)
  have unit := unitFor_le none pos
  have unit_pos : (0 : ℚ) < 2 ^ unitFor num den := by positivity
  have close : |(inUnits num den (unitFor num den) : ℚ) * 2 ^ unitFor num den - num / den| ≤
      slack (num / den) := by
    refine le_trans ?_ unit
    have same : (inUnits num den (unitFor num den) : ℚ) * 2 ^ unitFor num den - num / den =
        (inUnits num den (unitFor num den) - num / den / 2 ^ unitFor num den) * 2 ^ unitFor num den := by
      field_simp
    rw [same, abs_mul, abs_of_pos unit_pos]
    linarith [mul_le_mul_of_nonneg_right near unit_pos.le]
  have bounded : (inUnits num den (unitFor num den) : ℚ) * 2 ^ unitFor num den < 2 ^ (1024 : Int) := by
    have := (abs_le.mp close).2
    linarith
  rw [nearest, if_neg none]
  simp only
  by_cases carry : inUnits num den (unitFor num den) = Nat.pow 2 53
  · rw [if_pos carry]
    have value : (⟨Nat.pow 2 52, unitFor num den + 1⟩ : Magnitude).value =
        (inUnits num den (unitFor num den) : ℚ) * 2 ^ unitFor num den := by
      rw [carry, Magnitude.value, zpow_add₀ two_ne_zero]
      norm_num
      ring
    have small : unitFor num den + 1 ≤ 971 := by
      rw [carry] at bounded
      have whole : ((Nat.pow 2 53 : Nat) : ℚ) * 2 ^ unitFor num den = 2 ^ (53 + unitFor num den) := by
        rw [zpow_add₀ two_ne_zero]
        norm_num
      rw [whole, zpow_lt_zpow_iff_right₀ one_lt_two] at bounded
      omega
    exact ⟨_, if_pos small, value ▸ close⟩
  · rw [if_neg carry]
    have small : unitFor num den ≤ 971 := by
      rcases unitFor_cases none pos with least | bits
      · omega
      · have some : 0 ≤ slack ((num : ℚ) / den) := le_trans (by positivity) unit
        have range := bits.trans_lt ((le_add_of_nonneg_right some).trans_lt fits)
        rw [← zpow_add₀ two_ne_zero, zpow_lt_zpow_iff_right₀ one_lt_two] at range
        omega
    exact ⟨_, if_pos small, close⟩

/-! ## Steps -/

theorem slack_le {q bound : ℚ} (below : q ≤ bound) (large : 1 ≤ bound) : q + slack q ≤ 2 * bound := by
  have scaled : q * half ≤ bound * half := mul_le_mul_of_nonneg_right below half_pos.le
  have part : bound * half ≤ bound * (1 / 8) := mul_le_mul_of_nonneg_left half_small (by linarith)
  rw [slack]
  linarith [least_le, half_small]

theorem slack_le_of_one_le {q : ℚ} (large : 1 ≤ q) : slack q ≤ q * (2 * half) := by
  have scaled : half ≤ q * half := le_mul_of_one_le_left half_pos.le large
  rw [slack]
  linarith [least_le]

theorem slack_mono {q q' : ℚ} (below : q ≤ q') : slack q ≤ slack q' := by
  have scaled : q * half ≤ q' * half := mul_le_mul_of_nonneg_right below half_pos.le
  rw [slack, slack]
  linarith

theorem mul_ok {x y : Magnitude} (fits : x.value * y.value + slack (x.value * y.value) < 2 ^ (1024 : Int)) :
    ∃ z, x.mul y = some z := by
  have quotient : ((x.fraction.1 * y.fraction.1 : Nat) : ℚ) / (x.fraction.2 * y.fraction.2 : Nat) =
      x.value * y.value := by
    rw [← fraction_value x, ← fraction_value y]
    push_cast
    rw [div_mul_div_comm]
  obtain ⟨z, rounded, -⟩ := nearest_ok (Nat.mul_pos x.fraction_pos y.fraction_pos) (by rw [quotient]; exact fits)
  exact ⟨z, rounded⟩

theorem div_ok {x y : Magnitude} (positive : 0 < y.value)
    (fits : x.value / y.value + slack (x.value / y.value) < 2 ^ (1024 : Int)) :
    ∃ z, x.div y = some z ∧ z.value ≤ x.value / y.value + slack (x.value / y.value) := by
  have quotient : ((x.fraction.1 * y.fraction.2 : Nat) : ℚ) / (x.fraction.2 * y.fraction.1 : Nat) =
      x.value / y.value := by
    rw [← fraction_value x, ← fraction_value y]
    push_cast
    rw [div_div_div_eq]
  have filled : 0 < y.fraction.1 := by
    refine Nat.pos_of_ne_zero fun none => ?_
    rw [← fraction_value y, none] at positive
    simp at positive
  obtain ⟨z, rounded, near⟩ := nearest_ok (Nat.mul_pos x.fraction_pos filled) (by rw [quotient]; exact fits)
  rw [quotient] at near
  exact ⟨z, rounded, by linarith [(abs_le.mp near).2]⟩

/-- The greatest power of ten that is taken stays in range. -/
theorem ten_fits : (10 : ℚ) ^ 308 + 10 ^ 308 * (2 * half) < 2 ^ (1024 : Int) := by
  have whole : 10 ^ 308 * (2 ^ 52 + 1) < 2 ^ 1024 * 2 ^ 52 := by decide +kernel
  have cast : (10 : ℚ) ^ 308 * (2 ^ 52 + 1) < 2 ^ 1024 * 2 ^ 52 := by exact_mod_cast whole
  have unit : 2 * half = 1 / 2 ^ 52 := by norm_num [half]
  have same : (10 : ℚ) ^ 308 + 10 ^ 308 * (1 / 2 ^ 52) = 10 ^ 308 * (2 ^ 52 + 1) / 2 ^ 52 := by field_simp
  rw [unit, same, div_lt_iff₀ (by positivity), show (1024 : Int) = (1024 : Nat) from rfl, zpow_natCast]
  exact cast

theorem tenTo_ok {n : Nat} (small : n ≤ 308) :
    ∃ t, tenTo n = some t ∧ |t.value - 10 ^ n| ≤ 10 ^ n * (2 * half) := by
  have one : (1 : ℚ) ≤ 10 ^ n := one_le_pow₀ (by norm_num)
  have range : (10 : ℚ) ^ n ≤ 10 ^ 308 := pow_le_pow_right₀ (by norm_num) small
  have fits : (10 : ℚ) ^ n + slack (10 ^ n) < 2 ^ (1024 : Int) := by
    calc
      (10 : ℚ) ^ n + slack (10 ^ n) ≤ 10 ^ n + 10 ^ n * (2 * half) := by
        gcongr
        exact slack_le_of_one_le one
      _ ≤ 10 ^ 308 + 10 ^ 308 * (2 * half) := by
        gcongr
        exact (mul_pos two_pos half_pos).le
      _ < 2 ^ (1024 : Int) := ten_fits
  have quotient : ((Nat.pow 10 n : Nat) : ℚ) / (1 : Nat) = 10 ^ n := by simp
  obtain ⟨t, rounded, near⟩ := nearest_ok Nat.one_pos (by rw [quotient]; exact fits)
  rw [quotient] at near
  exact ⟨t, rounded, near.trans (slack_le_of_one_le one)⟩

section

variable {n : Nat} {t : Magnitude}

theorem tenTo_large (near : |t.value - 10 ^ n| ≤ 10 ^ n * (2 * half)) : 10 ^ n / 2 ≤ t.value := by
  have few : (10 : ℚ) ^ n * (2 * half) ≤ 10 ^ n * (1 / 4) := by
    gcongr
    linarith [half_small]
  have ten : (0 : ℚ) < 10 ^ n := by positivity
  linarith [(abs_le.mp near).1]

theorem half_le_tenTo (near : |t.value - 10 ^ n| ≤ 10 ^ n * (2 * half)) : 1 / 2 ≤ t.value := by
  have one : (1 : ℚ) ≤ 10 ^ n := one_le_pow₀ (by norm_num)
  linarith [tenTo_large near]

theorem two_le_tenTo (some : n ≠ 0) (near : |t.value - 10 ^ n| ≤ 10 ^ n * (2 * half)) : 2 ≤ t.value := by
  have ten : (10 : ℚ) ≤ 10 ^ n := le_self_pow₀ (by norm_num) some
  linarith [tenTo_large near]

end

/-- Downwards the range does not end. -/
theorem scaled_down {x : Magnitude} {exponent : Int} (down : exponent ≤ 0) (range : x.value ≤ 2 ^ (100 : Int)) :
    ∃ y, x.scaled exponent = some y := by
  have top : (2 : ℚ) * 2 ^ (101 : Int) < 2 ^ (1024 : Int) := by
    rw [← zpow_one_add₀ two_ne_zero]
    exact zpow_lt_zpow_right₀ one_lt_two (by decide)
  have double : (2 : ℚ) ^ (101 : Int) = 2 * 2 ^ (100 : Int) := by norm_num
  have one : (1 : ℚ) ≤ 2 ^ (101 : Int) := by norm_num
  induction x, exponent using scaled.induct with
  | case1 x exponent none => exact ⟨zero, by rw [scaled, if_pos none]⟩
  | case2 x exponent filled large => omega
  | case3 x exponent filled small nonneg =>
    obtain rfl : exponent = 0 := by omega
    obtain ⟨t, power, near⟩ := tenTo_ok (Nat.zero_le 308)
    have unit : t.value ≤ 2 := by
      rw [pow_zero, one_mul] at near
      linarith [(abs_le.mp near).2, half_small]
    have product : x.value * t.value ≤ 2 ^ (101 : Int) := by
      rw [double, mul_comm]
      gcongr
      exact x.value_nonneg
    obtain ⟨y, rounded⟩ := mul_ok ((slack_le product one).trans_lt top)
    refine ⟨y, ?_⟩
    rw [scaled, if_neg filled, if_neg small, if_pos nonneg]
    simp only [Int.toNat_zero, power, Option.bind_some, rounded]
  | case4 x exponent filled small negative within =>
    obtain ⟨t, power, near⟩ := tenTo_ok (n := exponent.natAbs) (by omega)
    have large := half_le_tenTo near
    have quotient : x.value / t.value ≤ 2 ^ (101 : Int) := by
      rw [div_le_iff₀ (by linarith), double]
      nlinarith [x.value_nonneg]
    obtain ⟨y, rounded, -⟩ := div_ok (by linarith) ((slack_le quotient one).trans_lt top)
    refine ⟨y, ?_⟩
    rw [scaled, if_neg filled, if_neg small, if_neg negative, if_pos within]
    simp only [power, Option.bind_some, rounded]
  | case5 x exponent filled small negative beyond ih =>
    obtain ⟨t, power, near⟩ := tenTo_ok (Nat.le_refl 308)
    have large := two_le_tenTo (by decide) near
    have quotient : x.value / t.value ≤ 2 ^ (99 : Int) := by
      have half : (2 : ℚ) ^ (100 : Int) = 2 ^ (99 : Int) * 2 := by norm_num
      rw [half] at range
      rw [div_le_iff₀ (by linarith)]
      have : (0 : ℚ) < 2 ^ (99 : Int) := by positivity
      nlinarith
    have one : (1 : ℚ) ≤ 2 ^ (99 : Int) := by norm_num
    have below : 2 * (2 : ℚ) ^ (99 : Int) = 2 ^ (100 : Int) := by norm_num
    obtain ⟨y, rounded, near⟩ := div_ok (by linarith) ((slack_le quotient one).trans_lt
      (below.trans_lt (zpow_lt_zpow_right₀ one_lt_two (by decide))))
    obtain ⟨z, rest⟩ := ih y (by omega) (near.trans ((slack_le quotient one).trans below.le))
    refine ⟨z, ?_⟩
    rw [scaled, if_neg filled, if_neg small, if_neg negative, if_neg beyond]
    simp only [power, Option.bind_some, rounded, rest]

/-- The end of the range, less the room that three rounded steps take. -/
def safe : ℚ := (2 ^ 53 - 8) * 2 ^ (971 : Int)

theorem one_le_safe : 1 ≤ safe :=
  one_le_mul_of_one_le_of_one_le (by norm_num) (one_le_zpow₀ one_le_two (by decide))

theorem safe_fits : safe * (1 + 2 * half) ^ 3 < 2 ^ (1024 : Int) := by
  have room : ((2 : ℚ) ^ 53 - 8) * (1 + 2 * half) ^ 3 < 2 ^ (53 : Int) := by norm_num [half]
  have unit : (0 : ℚ) < 2 ^ (971 : Int) := by positivity
  calc
    safe * (1 + 2 * half) ^ 3 = (2 ^ 53 - 8) * (1 + 2 * half) ^ 3 * 2 ^ (971 : Int) := by
      rw [safe, mul_right_comm]
    _ < 2 ^ (53 : Int) * 2 ^ (971 : Int) := mul_lt_mul_of_pos_right room unit
    _ = 2 ^ (1024 : Int) := by
      rw [← zpow_add₀ two_ne_zero]
      rfl

theorem safe_lt : safe < 10 ^ 309 := by
  have whole : 2 ^ 53 * 2 ^ 971 < 10 ^ 309 := by decide +kernel
  have cast : (2 : ℚ) ^ 53 * 2 ^ 971 < 10 ^ 309 := by exact_mod_cast whole
  refine lt_of_le_of_lt ?_ cast
  rw [safe, show (971 : Int) = (971 : Nat) from rfl, zpow_natCast]
  gcongr
  norm_num

/-- Upwards it ends close to the largest size. -/
theorem scaled_up {x : Magnitude} {significand : ℚ} {n : Nat} (small : n ≤ 308)
    (near : |x.value - significand| ≤ significand * (2 * half)) (fits : significand * 10 ^ n ≤ safe) :
    ∃ y, x.scaled n = some y := by
  by_cases none : x.mantissa = 0
  · exact ⟨zero, by rw [scaled, if_pos none]⟩
  obtain ⟨t, power, close⟩ := tenTo_ok small
  have growth : 1 ≤ 1 + 2 * half := by linarith [half_pos]
  have product : x.value * t.value ≤ safe * (1 + 2 * half) ^ 2 := by
    have first : x.value ≤ significand * (1 + 2 * half) := by linarith [(abs_le.mp near).2]
    have second : t.value ≤ 10 ^ n * (1 + 2 * half) := by linarith [(abs_le.mp close).2]
    calc
      x.value * t.value ≤ significand * (1 + 2 * half) * (10 ^ n * (1 + 2 * half)) :=
        mul_le_mul first second t.value_nonneg (x.value_nonneg.trans first)
      _ = significand * 10 ^ n * (1 + 2 * half) ^ 2 := by ring
      _ ≤ safe * (1 + 2 * half) ^ 2 := mul_le_mul_of_nonneg_right fits (by positivity)
  have large : 1 ≤ safe * (1 + 2 * half) ^ 2 :=
    one_le_mul_of_one_le_of_one_le one_le_safe (one_le_pow₀ growth)
  have range : x.value * t.value + slack (x.value * t.value) < 2 ^ (1024 : Int) := by
    calc
      x.value * t.value + slack (x.value * t.value)
          ≤ safe * (1 + 2 * half) ^ 2 + slack (safe * (1 + 2 * half) ^ 2) :=
        add_le_add product (slack_mono product)
      _ ≤ safe * (1 + 2 * half) ^ 2 + safe * (1 + 2 * half) ^ 2 * (2 * half) := by
        linarith [slack_le_of_one_le large]
      _ = safe * (1 + 2 * half) ^ 3 := by ring
      _ < 2 ^ (1024 : Int) := safe_fits
  obtain ⟨y, rounded⟩ := mul_ok range
  refine ⟨y, ?_⟩
  rw [scaled, if_neg none, if_neg (by omega), if_pos (by omega)]
  simp only [Int.toNat_natCast, power, Option.bind_some, rounded]

end Magnitude

open Magnitude

/-- A decimal that lies below the safe end of the range is read. -/
theorem ofScientific?_ok (negative : Bool) {significand : Nat} {exponent : Int} (small : significand < 2 ^ 64)
    (fits : (significand : ℚ) * 10 ^ exponent ≤ safe) :
    ∃ x, Binary64.ofScientific? negative significand exponent = some x := by
  have scaled : ∃ x, (nearest significand 1).bind (·.scaled exponent) = some x := by
    by_cases none : significand = 0
    · subst none
      refine ⟨zero, ?_⟩
      rw [nearest, if_pos rfl, Option.bind_some, Magnitude.scaled]
      rfl
    have one : (1 : ℚ) ≤ significand := by exact_mod_cast Nat.pos_of_ne_zero none
    have bound : (significand : ℚ) ≤ 2 ^ (64 : Int) := by exact_mod_cast small.le
    have quotient : (significand : ℚ) / (1 : Nat) = significand := by simp
    have top : (2 : ℚ) * 2 ^ (64 : Int) < 2 ^ (1024 : Int) := by
      rw [← zpow_one_add₀ two_ne_zero]
      exact zpow_lt_zpow_right₀ one_lt_two (by decide)
    have within := slack_le bound (by norm_num)
    have range := within.trans_lt top
    rw [← quotient] at range
    obtain ⟨x, rounded, near⟩ := nearest_ok Nat.one_pos range
    rw [quotient] at near
    rw [rounded, Option.bind_some]
    by_cases down : exponent ≤ 0
    · refine scaled_down down ?_
      have above := (abs_le.mp near).2
      have room : (2 : ℚ) * 2 ^ (64 : Int) ≤ 2 ^ (100 : Int) := by norm_num
      linarith
    · obtain ⟨n, rfl⟩ : ∃ n : Nat, exponent = n := ⟨exponent.toNat, by omega⟩
      rw [zpow_natCast] at fits
      have few : n ≤ 308 := by
        by_contra many
        have power : (10 : ℚ) ^ 309 ≤ 10 ^ n := pow_le_pow_right₀ (by norm_num) (by omega)
        have above : (10 : ℚ) ^ n ≤ significand * 10 ^ n := le_mul_of_one_le_left (by positivity) one
        exact absurd (power.trans (above.trans fits)) (not_le.mpr safe_lt)
      exact scaled_up few (near.trans (slack_le_of_one_le one)) fits
  obtain ⟨x, found⟩ := scaled
  exact ⟨⟨negative, x⟩, by rw [Binary64.ofScientific?, found]; rfl⟩

theorem ofScientific?_down (negative : Bool) {significand : Nat} {exponent : Int} (small : significand < 2 ^ 64)
    (down : exponent ≤ 0) : ∃ x, Binary64.ofScientific? negative significand exponent = some x := by
  refine ofScientific?_ok negative small ?_
  have power : (10 : ℚ) ^ exponent ≤ 1 := zpow_le_one_of_nonpos₀ (by norm_num) down
  have bound : (significand : ℚ) ≤ 2 ^ (64 : Int) := by exact_mod_cast small.le
  have room : (2 : ℚ) ^ (64 : Int) ≤ 2 ^ (971 : Int) := zpow_le_zpow_right₀ one_le_two (by decide)
  have unit : (0 : ℚ) ≤ 2 ^ (971 : Int) := by positivity
  have many : (1 : ℚ) ≤ 2 ^ 53 - 8 := by norm_num
  calc
    (significand : ℚ) * 10 ^ exponent ≤ significand := mul_le_of_le_one_right (Nat.cast_nonneg _) power
    _ ≤ 2 ^ (971 : Int) := bound.trans room
    _ ≤ (2 ^ 53 - 8) * 2 ^ (971 : Int) := le_mul_of_one_le_left unit many
    _ = safe := safe.eq_1.symm

/-! ## The shortest decimal -/

namespace Magnitude

/-- Half a unit above a size. -/
def upper (x : Magnitude) : ℚ := (x.mantissa + 1 / 2) * 2 ^ x.exponent

theorem upper_pos (x : Magnitude) : 0 < x.upper := by
  unfold upper
  positivity

theorem readingInterval_upper (x : Magnitude) :
    (x.readingInterval.2.2.1 : ℚ) = x.upper * x.readingInterval.2.2.2 := by
  rw [readingInterval, upper]
  by_cases negative : x.exponent < 0
  · obtain ⟨n, same⟩ : ∃ n : Nat, x.exponent = -n := ⟨x.exponent.natAbs, by omega⟩
    simp only [if_pos negative]
    rw [same, zpow_neg, Int.natAbs_neg, Int.natAbs_natCast, zpow_natCast]
    push_cast
    rw [Nat.pow_eq]
    push_cast
    field_simp
    ring
  · obtain ⟨n, same⟩ : ∃ n : Nat, x.exponent = n := ⟨x.exponent.toNat, by omega⟩
    simp only [if_neg negative]
    rw [same, Int.toNat_natCast, zpow_natCast, Nat.pow_eq]
    push_cast
    ring

theorem readingInterval_pos (x : Magnitude) : 0 < x.readingInterval.2.2.2 := by
  rw [readingInterval]
  simp only
  split
  · exact Nat.mul_pos (by decide) (Nat.pow_pos (by decide))
  · decide

theorem inside_of_found {inside : Nat → Bool} {floor n : Nat} {near : Bool}
    (found : (if inside floor && near then some floor
      else if inside (floor + 1) then some (floor + 1) else none) = some n) : inside n = true := by
  split at found
  · rename_i here
    obtain rfl := Option.some.inj found
    exact (Bool.and_eq_true_iff.mp here).1
  split at found
  · rename_i here
    obtain rfl := Option.some.inj found
    exact here
  · contradiction

/-- What is found on a grid lies no more than half a unit above the size. -/
theorem onGrid?_le {x : Magnitude} {k : Int} {n : Nat} (found : x.onGrid? k = some n) :
    (n : ℚ) * 10 ^ k ≤ x.upper := by
  obtain ⟨low, mid, high, den, interval⟩ : ∃ low mid high den, x.readingInterval = (low, mid, high, den) :=
    ⟨_, _, _, _, rfl⟩
  have above := x.readingInterval_upper
  have den_pos := x.readingInterval_pos
  rw [interval] at above den_pos
  rw [onGrid?, interval] at found
  have inside := @inside_of_found (fun m =>
    if x.mantissa % 2 = 0 then
      low * (if k < 0 then Nat.pow 10 k.natAbs else 1) ≤ m * (if k < 0 then den else den * Nat.pow 10 k.toNat) &&
        m * (if k < 0 then den else den * Nat.pow 10 k.toNat) ≤ high * (if k < 0 then Nat.pow 10 k.natAbs else 1)
    else
      low * (if k < 0 then Nat.pow 10 k.natAbs else 1) < m * (if k < 0 then den else den * Nat.pow 10 k.toNat) &&
        m * (if k < 0 then den else den * Nat.pow 10 k.toNat) < high * (if k < 0 then Nat.pow 10 k.natAbs else 1))
    _ n _ found
  have inside : n * (if k < 0 then den else den * Nat.pow 10 k.toNat) ≤
      high * (if k < 0 then Nat.pow 10 k.natAbs else 1) := by
    split at inside
    · rw [Bool.and_eq_true, decide_eq_true_eq, decide_eq_true_eq] at inside
      exact inside.2
    · rw [Bool.and_eq_true, decide_eq_true_eq, decide_eq_true_eq] at inside
      exact inside.2.le
  have den_pos : (0 : ℚ) < den := by exact_mod_cast den_pos
  by_cases negative : k < 0
  · obtain ⟨m, rfl⟩ : ∃ m : Nat, k = -m := ⟨k.natAbs, by omega⟩
    rw [if_pos negative, if_pos negative, Int.natAbs_neg, Int.natAbs_natCast, Nat.pow_eq] at inside
    have cast : (n : ℚ) * den ≤ high * 10 ^ m := by exact_mod_cast inside
    rw [above] at cast
    rw [zpow_neg, zpow_natCast, ← div_eq_mul_inv, div_le_iff₀ (by positivity)]
    nlinarith
  · obtain ⟨m, rfl⟩ : ∃ m : Nat, k = m := ⟨k.toNat, by omega⟩
    rw [if_neg negative, if_neg negative, Int.toNat_natCast, Nat.pow_eq, Nat.mul_one] at inside
    have cast : (n : ℚ) * (den * 10 ^ m) ≤ high := by exact_mod_cast inside
    rw [above] at cast
    rw [zpow_natCast]
    nlinarith

theorem searchGrid_le (x : Magnitude) (fuel : Nat) (k : Int) :
    ((x.searchGrid fuel k).1 : ℚ) * 10 ^ (x.searchGrid fuel k).2 ≤ x.upper ∧
      k - fuel ≤ (x.searchGrid fuel k).2 ∧ (x.searchGrid fuel k).2 ≤ k ∧
      ((x.searchGrid fuel k).1 = 0 → (x.searchGrid fuel k).2 = k - fuel) := by
  induction fuel generalizing k with
  | zero =>
    have above := x.upper_pos.le
    simpa [searchGrid] using above
  | succ fuel ih =>
    obtain ⟨below, low, high, none⟩ := ih (k - 1)
    have later : k - (fuel + 1 : Nat) ≤ (x.searchGrid fuel (k - 1)).2 ∧ (x.searchGrid fuel (k - 1)).2 ≤ k ∧
        ((x.searchGrid fuel (k - 1)).1 = 0 → (x.searchGrid fuel (k - 1)).2 = k - (fuel + 1 : Nat)) :=
      ⟨by omega, by omega, fun zero => by have := none zero; omega⟩
    rw [searchGrid]
    cases found : x.onGrid? k with
    | none => exact ⟨below, later⟩
    | some n =>
      simp only
      split
      · exact ⟨below, later⟩
      · rename_i some
        exact ⟨onGrid?_le found, by simp only; omega, Int.le_refl k, fun zero => absurd zero some⟩

theorem shortest_le (x : Magnitude) :
    (x.shortest.1 : ℚ) * 10 ^ x.shortest.2 ≤ x.upper ∧ -350 ≤ x.shortest.2 ∧ x.shortest.2 ≤ 310 ∧
      (x.shortest.1 = 0 → x.shortest.2 ≤ 0) := by
  rw [shortest]
  split
  · have above := x.upper_pos.le
    simpa using above
  · obtain ⟨below, low, high, none⟩ := x.searchGrid_le 660 310
    exact ⟨below, low, high, fun zero => (none zero).le.trans (by decide)⟩

/-- The sizes of finite numbers. -/
structure Finite (x : Magnitude) : Prop where
  mantissa : x.mantissa < 2 ^ 53
  exponent : x.exponent ≤ 971

theorem upper_le_safe {x : Magnitude} (finite : x.Finite) (inner : x.exponent < 971 ∨ x.mantissa < 2 ^ 53 - 8) :
    x.upper ≤ safe := by
  have unit : (0 : ℚ) < 2 ^ (971 : Int) := by positivity
  rw [upper, safe]
  rcases inner with low | low
  · have most : (x.mantissa : ℚ) + 1 / 2 ≤ 2 ^ 53 := by
      have whole : (x.mantissa : ℚ) + 1 ≤ 2 ^ 53 := by exact_mod_cast finite.mantissa
      linarith
    have power : (2 : ℚ) ^ x.exponent ≤ 2 ^ (970 : Int) := zpow_le_zpow_right₀ one_le_two (by omega)
    have double : (2 : ℚ) ^ (971 : Int) = 2 ^ (970 : Int) * 2 := by
      rw [← zpow_add_one₀ two_ne_zero]
      rfl
    have half : (0 : ℚ) < 2 ^ (970 : Int) := by positivity
    calc
      ((x.mantissa : ℚ) + 1 / 2) * 2 ^ x.exponent ≤ 2 ^ 53 * 2 ^ (970 : Int) := by gcongr
      _ ≤ (2 ^ 53 - 8) * 2 * 2 ^ (970 : Int) := by
        gcongr
        norm_num
      _ = (2 ^ 53 - 8) * 2 ^ (971 : Int) := by
        rw [double]
        ring
  · have most : (x.mantissa : ℚ) + 1 / 2 ≤ 2 ^ 53 - 8 := by
      have whole : (x.mantissa : ℚ) + 1 ≤ ((2 ^ 53 - 8 : Nat) : ℚ) := by exact_mod_cast low
      norm_num at whole ⊢
      linarith
    have power : (2 : ℚ) ^ x.exponent ≤ 2 ^ (971 : Int) := zpow_le_zpow_right₀ one_le_two finite.exponent
    have room : (0 : ℚ) ≤ 2 ^ 53 - 8 := by norm_num
    exact mul_le_mul most power (by positivity) room

/-- The sizes next to the end of the range have decimals that are read too. -/
theorem top_ok : ∀ i < 8, (shortest ⟨2 ^ 53 - 8 + i, 971⟩).1 < 2 ^ 64 ∧ 0 ≤ (shortest ⟨2 ^ 53 - 8 + i, 971⟩).2 ∧
    (shortest ⟨2 ^ 53 - 8 + i, 971⟩).2 ≤ 308 ∧
    ((nearest (shortest ⟨2 ^ 53 - 8 + i, 971⟩).1 1).bind fun x =>
      (tenTo (shortest ⟨2 ^ 53 - 8 + i, 971⟩).2.toNat).bind x.mul).isSome = true := by
  decide +kernel

end Magnitude

/-- The shortest decimal of a number lies below the safe end of the range, or is read as it is. -/
theorem shortest_ok {x : Magnitude} (finite : x.Finite) :
    (x.shortest.1 : ℚ) * 10 ^ x.shortest.2 ≤ safe ∨
      x.shortest.1 < 2 ^ 64 ∧
        ∀ negative, ∃ y, Binary64.ofScientific? negative x.shortest.1 x.shortest.2 = some y := by
  by_cases inner : x.exponent < 971 ∨ x.mantissa < 2 ^ 53 - 8
  · exact .inl (x.shortest_le.1.trans (upper_le_safe finite inner))
  rw [not_or, not_lt, not_lt] at inner
  obtain ⟨mantissa, exponent⟩ := x
  obtain rfl : exponent = 971 := Int.le_antisymm finite.exponent inner.1
  obtain ⟨i, rfl⟩ : ∃ i, mantissa = 2 ^ 53 - 8 + i := Nat.exists_eq_add_of_le inner.2
  have few : i < 8 := by
    have below : 2 ^ 53 - 8 + i < 2 ^ 53 := finite.mantissa
    omega
  obtain ⟨small, low, high, read⟩ := top_ok i few
  refine .inr ⟨small, fun negative => ?_⟩
  obtain ⟨y, product⟩ := Option.isSome_iff_exists.mp read
  obtain ⟨z, first, later⟩ := Option.bind_eq_some_iff.mp product
  have steps : ∃ y, z.scaled (shortest ⟨2 ^ 53 - 8 + i, 971⟩).2 = some y := by
    rw [scaled]
    split
    · exact ⟨_, rfl⟩
    · rw [if_neg (by omega)]
      exact ⟨y, later⟩
  obtain ⟨w, steps⟩ := steps
  exact ⟨⟨negative, w⟩, by rw [Binary64.ofScientific?, first, Option.bind_some, steps]; rfl⟩

theorem shortest_length {x : Magnitude} (finite : x.Finite) :
    (Nat.toDigits 10 x.shortest.1).length ≤ 309 + 350 := by
  rw [Nat.length_toDigits_le_iff (by decide) (by decide)]
  rcases shortest_ok finite with below | ⟨small, -⟩
  · have low : (10 : ℚ) ^ (-350 : Int) ≤ 10 ^ x.shortest.2 :=
      zpow_le_zpow_right₀ (by norm_num) x.shortest_le.2.1
    have range : (x.shortest.1 : ℚ) * 10 ^ (-350 : Int) < 10 ^ 309 :=
      ((mul_le_mul_of_nonneg_left low (by positivity)).trans below).trans_lt safe_lt
    rw [zpow_neg, ← div_eq_mul_inv, div_lt_iff₀ (by positivity), show (350 : Int) = (350 : Nat) from rfl,
      zpow_natCast, ← pow_add] at range
    generalize 309 + 350 = length at range ⊢
    exact_mod_cast range
  · calc
      x.shortest.1 < 2 ^ 64 := small
      _ ≤ 10 ^ 64 := Nat.pow_le_pow_left (by decide) 64
      _ ≤ 10 ^ (309 + 350) := Nat.pow_le_pow_right (by decide) (by decide)

end Turnstile.Decimal
