/-
  Decimal numbers: a natural number of units at some power of
  ten. They stand between a double and its text.

  Key definitions include:
    * `Decimal`
    * `Decimal.ratio`
    * `Decimal.text`
-/

namespace MathScan

/- The number `digits * 10 ^ exponent`. -/
structure Decimal where
  digits : Nat
  exponent : Int
deriving DecidableEq

namespace Decimal

/- A decimal number as a quotient of natural numbers. -/
def ratio
    (x : Decimal) : Nat × Nat :=
  match x.exponent with
  | .ofNat n => (x.digits * Nat.pow 10 n, 1)
  | .negSucc n => (x.digits, Nat.pow 10 (n + 1))

------------------------------------------------------------
-- Text
------------------------------------------------------------

def trimZeros
    (ds : List Char) : List Char :=
  (ds.reverse.dropWhile (· == '0')).reverse

/-
  Digits with a point after the first `point` of them, filled
  up with zeros so that a digit stands on both its sides.
-/
def positional
    (ds : List Char)
    (point : Int) : List Char :=
  if point ≤ 0 then
    '0' :: '.' :: (List.replicate (-point).toNat '0' ++ ds)
  else if ds.length ≤ point then
    ds ++ List.replicate (point - ds.length).toNat '0' ++
      ['.', '0']
  else
    ds.take point.toNat ++ '.' :: ds.drop point.toNat

/- An exponent with its sign and at least two digits. -/
def exponentText
    (e : Int) : List Char :=
  let ds := Nat.toDigits 10 e.natAbs
  'e' :: (if e < 0 then '-' else '+') ::
    (if ds.length < 2 then '0' :: ds else ds)

/-
  Digits with a point after the first of them, if more follow,
  and an exponent.
-/
def scientific
    (ds : List Char)
    (e : Int) : List Char :=
  ds.take 1 ++
    (if ds.length ≤ 1 then [] else '.' :: ds.drop 1) ++
    exponentText e

/-
  The text of a decimal number other than zero: positional
  from a ten thousandth up to below ten to the sixteenth,
  scientific outside.
-/
def text
    (x : Decimal) : List Char :=
  let ds := Nat.toDigits 10 x.digits
  let point : Int := ds.length + x.exponent
  if -3 ≤ point ∧ point ≤ 16 then
    positional (trimZeros ds) point
  else
    scientific (trimZeros ds) (point - 1)

end Decimal

end MathScan
