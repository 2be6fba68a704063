import MathScan.Double.Rounding

/-
  The shortest decimal number that reads back as a given
  double. Of the decimal numbers with the fewest digits that
  do so it is the one nearest to the double, and of two that
  are equally near the one whose last digit is even.

  Key definitions include:
    * `Magnitude.exactDecimal`
    * `Magnitude.shortest`
    * `Double.text`
-/

namespace MathScan

namespace Magnitude

------------------------------------------------------------
-- The exact expansion
------------------------------------------------------------

/-
  The decimal number equal to a magnitude. In lowest terms the
  value is a fraction over a power of two, and as many fives
  make that a power of ten.
-/
def exactDecimal
    (m : Magnitude) : Decimal :=
  let common := m.quanta.gcd quantaInOne
  let places := Nat.log2 (quantaInOne / common)
  ⟨m.quanta / common * Nat.pow 5 places, -(places : Int)⟩

------------------------------------------------------------
-- Fewer digits
------------------------------------------------------------

/- Whether a decimal number reads back as a magnitude. -/
def readsBack
    (m : Magnitude)
    (x : Decimal) : Bool :=
  ofDecimal? x == some m

/-
  The decimal numbers next to `x`, below and above, without
  its last `dropped` digits.
-/
def neighbours
    (x : Decimal)
    (dropped : Nat) : Decimal × Decimal :=
  let kept := x.digits / Nat.pow 10 dropped
  (⟨kept, x.exponent + dropped⟩,
    ⟨kept + 1, x.exponent + dropped⟩)

/- Whether the lower neighbour is the nearer one. -/
def lowerIsNearer
    (x : Decimal)
    (dropped : Nat) : Bool :=
  let unit := Nat.pow 10 dropped
  let rest := 2 * (x.digits % unit)
  rest < unit || rest == unit && x.digits / unit % 2 == 0

/-
  The nearer neighbour that reads back, without the last
  `dropped` digits of the exact value `x`.
-/
def shortened?
    (m : Magnitude)
    (x : Decimal)
    (dropped : Nat) : Option Decimal :=
  let (lower, upper) := neighbours x dropped
  match m.readsBack lower, m.readsBack upper with
  | true, true =>
    some (if lowerIsNearer x dropped then lower else upper)
  | true, false => some lower
  | false, true => some upper
  | false, false => none

/-
  Drops as many of the last digits of the exact value `x` as
  it can, but no more than given.
-/
def shortestFrom
    (m : Magnitude)
    (x : Decimal) : (dropped : Nat) → Decimal
  | 0 => x
  | dropped + 1 =>
    match m.shortened? x (dropped + 1) with
    | some short => short
    | none => shortestFrom m x dropped

/- The shortest decimal number that reads back. -/
def shortest
    (m : Magnitude) : Decimal :=
  let x := m.exactDecimal
  shortestFrom m x ((Nat.toDigits 10 x.digits).length - 1)

def text
    (m : Magnitude) : List Char :=
  if m.rank = 0 then
    ['0', '.', '0']
  else
    m.shortest.text

end Magnitude

------------------------------------------------------------
-- Text of doubles
------------------------------------------------------------

namespace Double

/- Characters with a minus sign in front, where it is due. -/
def withSign
    (negative : Bool)
    (cs : List Char) : List Char :=
  if negative then '-' :: cs else cs

def chars : Double → List Char
  | .nan => ['n', 'a', 'n']
  | .infinite negative => withSign negative ['i', 'n', 'f']
  | .finite negative m => withSign negative m.text

def text
    (x : Double) : String :=
  String.ofList x.chars

end Double

end MathScan
