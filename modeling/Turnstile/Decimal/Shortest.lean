import Turnstile.Decimal.Binary64
/-!
# The shortest decimal

The decimal text with the fewest digits that reads back as the same number, and of those the nearest
one, with a decimal point or a power of ten.
-/
namespace Turnstile.Decimal

namespace Magnitude

/-- The numbers that round to `x`, as numerators over a common denominator: lower end, `x` itself,
upper end. The ends belong to them exactly when the mantissa is even. -/
def readingInterval (x : Magnitude) : Nat × Nat × Nat × Nat :=
  -- in quarters of the unit 2 ^ exponent
  let m := 4 * x.mantissa
  let below := if x.mantissa = Nat.pow 2 52 ∧ x.exponent > -1074 then 1 else 2
  let lift := if x.exponent < 0 then 1 else Nat.pow 2 x.exponent.toNat
  let den := if x.exponent < 0 then 4 * Nat.pow 2 x.exponent.natAbs else 4
  ((m - below) * lift, m * lift, (m + 2) * lift, den)

/-- The multiple of `10 ^ k` nearest to `x` among its two neighbours that read back as `x`; of two that
are equally near, the even one. -/
def onGrid? (x : Magnitude) (k : Int) : Option Nat :=
  let (low, mid, high, den) := x.readingInterval
  -- multiples of `step`, all over the denominator `den * up`
  let up := if k < 0 then Nat.pow 10 k.natAbs else 1
  let step := if k < 0 then den else den * Nat.pow 10 k.toNat
  let inside (n : Nat) : Bool :=
    if x.mantissa % 2 = 0 then low * up ≤ n * step && n * step ≤ high * up
    else low * up < n * step && n * step < high * up
  let floor := mid * up / step
  let past := 2 * (mid * up - floor * step)
  let nearFloor := past < step || (past = step && floor % 2 = 0)
  if inside floor && (nearFloor || !inside (floor + 1)) then some floor
  else if inside (floor + 1) then some (floor + 1)
  else none

/-- The first of `fuel` grids, from `10 ^ k` downwards, that holds a decimal of `x`. -/
def searchGrid (x : Magnitude) : Nat → Int → Nat × Int
  | 0, k => (0, k)
  | fuel + 1, k =>
    match x.onGrid? k with
    | some n => if n = 0 then searchGrid x fuel (k - 1) else (n, k)
    | none => searchGrid x fuel (k - 1)

/-- The shortest decimal of a size: digits and power of ten. -/
def shortest (x : Magnitude) : Nat × Int :=
  if x.mantissa = 0 then (0, 0) else x.searchGrid 660 310

end Magnitude

/-- Digits with a point after the first `whole` of them, zeros filled in on either side. -/
def pointed (digits : List Char) (whole : Int) : List Char :=
  if whole ≤ 0 then '0' :: '.' :: List.replicate whole.natAbs '0' ++ digits
  else if digits.length ≤ whole.toNat then
    digits ++ List.replicate (whole.toNat - digits.length) '0' ++ ['.', '0']
  else digits.take whole.toNat ++ '.' :: digits.drop whole.toNat

/-- Digits with a point after the first of them and a signed power of ten. -/
def powered (digits : List Char) (power : Int) : List Char :=
  let point := if digits.length ≤ 1 then [] else ['.']
  let sign := if power < 0 then '-' else '+'
  digits.take 1 ++ point ++ digits.drop 1 ++ 'e' :: sign :: Nat.toDigits 10 power.natAbs

/-- A decimal is written out in full while its first digit stands at 10^-5 up to 10^15, and with a
power of ten beyond. -/
def layOut (digits : List Char) (exponent : Int) : List Char :=
  let power := exponent + digits.length - 1
  if -5 ≤ power ∧ power ≤ 15 then pointed digits (power + 1) else powered digits power

/-- The shortest decimal text of a number. -/
def Binary64.text (x : Binary64) : String :=
  let (digits, exponent) := x.size.shortest
  String.ofList ((if x.negative then ['-'] else []) ++ layOut (Nat.toDigits 10 digits) exponent)

end Turnstile.Decimal
