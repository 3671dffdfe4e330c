/-!
# Binary floating point

Finite numbers with 53 significant bits. Every operation rounds its exact result to the nearest
such number, a tie to the even one (`nearest`), and has no result where the range ends.
-/
namespace Turnstile.Decimal

/-- The size of a finite number: `mantissa * 2 ^ exponent`. -/
structure Magnitude where
  /-- Below 2 ^ 53. -/
  mantissa : Nat
  /-- At least -1074. -/
  exponent : Int
deriving Repr, DecidableEq

/-- A finite number with its sign; zero has both. -/
structure Binary64 where
  negative : Bool
  size : Magnitude
deriving Repr, DecidableEq

namespace Magnitude

def zero : Magnitude := ⟨0, -1074⟩

/-- The size as a fraction: numerator and denominator. -/
def fraction (x : Magnitude) : Nat × Nat :=
  if x.exponent < 0 then (x.mantissa, Nat.pow 2 x.exponent.natAbs)
  else (x.mantissa * Nat.pow 2 x.exponent.toNat, 1)

/-- The quotient rounded to the nearest whole number, a half to the even one. -/
def divideEven (num den : Nat) : Nat :=
  let q := num / den
  let r := num % den
  if 2 * r < den then q
  else if den < 2 * r then q + 1
  else if q % 2 = 0 then q else q + 1

/-- The quotient in units of `2 ^ e`, rounded. -/
def inUnits (num den : Nat) (e : Int) : Nat :=
  if e < 0 then divideEven (num * Nat.pow 2 e.natAbs) den
  else divideEven num (den * Nat.pow 2 e.toNat)

/-- The quotient in units of `2 ^ e`, cut off. -/
def unitsBelow (num den : Nat) (e : Int) : Nat :=
  if e < 0 then num * Nat.pow 2 e.natAbs / den else num / (den * Nat.pow 2 e.toNat)

/-- The exponent whose unit gives the quotient 53 bits, or the least exponent. -/
def unitFor (num den : Nat) : Int :=
  let guess : Int := (num.log2 : Int) - (den.log2 : Int) - 53
  let e := if unitsBelow num den guess < Nat.pow 2 53 then guess else guess + 1
  max e (-1074)

/-- The size nearest to a quotient; none beyond the largest one. -/
def nearest (num den : Nat) : Option Magnitude :=
  if num = 0 then some zero
  else
    let e := unitFor num den
    let m := inUnits num den e
    let x : Magnitude := if m = Nat.pow 2 53 then ⟨Nat.pow 2 52, e + 1⟩ else ⟨m, e⟩
    if x.exponent ≤ 971 then some x else none

/-- The size nearest to a power of ten. -/
def tenTo (n : Nat) : Option Magnitude := nearest (Nat.pow 10 n) 1

/-- The product, rounded. -/
def mul (x y : Magnitude) : Option Magnitude :=
  let (a, b) := x.fraction
  let (c, d) := y.fraction
  nearest (a * c) (b * d)

/-- The quotient, rounded. -/
def div (x y : Magnitude) : Option Magnitude :=
  let (a, b) := x.fraction
  let (c, d) := y.fraction
  nearest (a * d) (b * c)

/-- `significand * 10 ^ exponent`, computed from the rounded significand by rounded steps: powers
above the 308th are taken off in steps of 308. None beyond the largest size. -/
def scaled (x : Magnitude) (exponent : Int) : Option Magnitude :=
  if x.mantissa = 0 then some zero
  else if exponent > 308 then none
  else if exponent ≥ 0 then (tenTo exponent.toNat).bind x.mul
  else if exponent ≥ -308 then (tenTo exponent.natAbs).bind x.div
  else ((tenTo 308).bind x.div).bind fun y => y.scaled (exponent + 308)
termination_by exponent.natAbs
decreasing_by omega

end Magnitude

/-- The number written as a significand below 2 ^ 64 and a power of ten. -/
def Binary64.ofScientific? (negative : Bool) (significand : Nat) (exponent : Int) : Option Binary64 :=
  ((Magnitude.nearest significand 1).bind (·.scaled exponent)).map (⟨negative, ·⟩)

end Turnstile.Decimal
