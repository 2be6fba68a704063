import MathScan.Double.Basic
import MathScan.Decimal

/-
  Rounding to doubles. A quotient of natural numbers goes to
  the nearest double, and from the middle between two to the
  one with an even rank. Whole numbers and decimal numbers
  are rounded in the same way.

  Key definitions include:
    * `divEven`
    * `roundedRank`
    * `Magnitude.ofRatio?`
    * `Magnitude.ofDecimal?`
    * `Double.ofNat`
    * `Double.ofInt?`
-/

namespace MathScan

------------------------------------------------------------
-- Quotients
------------------------------------------------------------

/- The nearest whole number to `a / b`, a half to the even. -/
def divEven
    (a b : Nat) : Nat :=
  if 2 * (a % b) < b then
    a / b
  else if b < 2 * (a % b) then
    a / b + 1
  else
    a / b + a / b % 2

/-
  The rank of the double nearest to `num / den`, as if ranks
  went on without end. The step between neighbours is doubled
  until fewer than 2 ^ 53 steps reach the quotient; a quotient
  that is rounded up to all 2 ^ 53 steps gets the next rank,
  with which the next step begins.
-/
def roundedRank
    (num den : Nat) : Nat :=
  let quanta := num * Magnitude.quantaInOne
  let shift := (quanta / den).log2 - 52
  divEven quanta (den * Nat.pow 2 shift) +
    shift * Magnitude.octave

namespace Magnitude

/- The magnitude nearest to `num / den`, if it is not too big. -/
def ofRatio?
    (num den : Nat) : Option Magnitude :=
  if h : roundedRank num den < count then
    some ⟨roundedRank num den, h⟩
  else
    none

/-
  The magnitude nearest to a decimal number, if it is not too
  big. Exponents that leave no doubt are not multiplied out.
-/
def ofDecimal?
    (x : Decimal) : Option Magnitude :=
  if x.digits = 0 then
    some zero
  else if 400 < x.exponent then
    none
  else if x.exponent < -(401 + x.digits.log2) then
    some zero
  else
    ofRatio? x.ratio.1 x.ratio.2

end Magnitude

------------------------------------------------------------
-- Doubles
------------------------------------------------------------

namespace Double

/- A double with a sign, infinite if it has no magnitude. -/
def ofMagnitude?
    (negative : Bool) : Option Magnitude → Double
  | some m => .finite negative m
  | none => .infinite negative

/- The double nearest to a natural number. -/
def ofNat
    (n : Nat) : Double :=
  ofMagnitude? false (Magnitude.ofRatio? n 1)

/- The double nearest to an integer, if it is not too big. -/
def ofInt?
    (n : Int) : Option Double :=
  (Magnitude.ofRatio? n.natAbs 1).map (.finite (n < 0))

/- The double nearest to a decimal number with a sign. -/
def ofDecimal
    (negative : Bool)
    (x : Decimal) : Double :=
  ofMagnitude? negative (Magnitude.ofDecimal? x)

end Double

end MathScan
