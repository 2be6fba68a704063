/-
  Double-precision numbers, held exactly. The finite doubles
  that are not negative are counted upwards from zero, and a
  double is its rank in that count. All of them are whole
  multiples of the least positive one, the quantum, which is
  two to the power of -1074.

  Key definitions include:
    * `Magnitude`
    * `Magnitude.octave`
    * `Magnitude.quanta`
    * `Double`
    * `Double.same`
    * `Double.integral?`
-/

namespace MathScan

------------------------------------------------------------
-- Magnitudes
------------------------------------------------------------

/-
  How many doubles there are from a power of two up to below
  the next: 2 ^ 52.
-/
def Magnitude.octave : Nat :=
  0x10000000000000

/- The number of finite doubles that are not negative. -/
def Magnitude.count : Nat :=
  2047 * octave

/- The number of quanta in one: 2 ^ 1074. -/
def Magnitude.quantaInOne : Nat :=
  Nat.pow 2 1074

/- A finite double that is not negative, by its rank. -/
structure Magnitude where
  rank : Nat
  rank_lt : rank < Magnitude.count
deriving DecidableEq

namespace Magnitude

/-
  How often the step between neighbours has doubled below a
  rank. It doubles after every octave but the first, and is
  one quantum below that.
-/
def shift
    (m : Magnitude) : Nat :=
  m.rank / octave - 1

/- The value of a magnitude, in quanta. -/
def quanta
    (m : Magnitude) : Nat :=
  (m.rank - m.shift * octave) * Nat.pow 2 m.shift

def zero : Magnitude :=
  ⟨0, by decide⟩

end Magnitude

------------------------------------------------------------
-- Doubles
------------------------------------------------------------

/- A double-precision number; both zeros are finite. -/
inductive Double where
  | nan
  | infinite (negative : Bool)
  | finite (negative : Bool) (magnitude : Magnitude)
deriving DecidableEq

namespace Double

/-
  Equality of values: the two zeros are equal, and NaN differs
  from all doubles.
-/
def same : Double → Double → Bool
  | .infinite a, .infinite b => a == b
  | .finite a m, .finite b n =>
    m == n && (a == b || m == Magnitude.zero)
  | _, _ => false

def one : Double :=
  .finite false ⟨1023 * Magnitude.octave, by decide⟩

def ofBool : Bool → Double
  | true => one
  | false => .finite false .zero

/- An integer with a sign put in front of it. -/
def signed
    (negative : Bool)
    (n : Nat) : Int :=
  if negative then -n else n

/- The integer that a double is equal to, if there is one. -/
def integral? : Double → Option Int
  | .finite negative m =>
    if m.quanta % Magnitude.quantaInOne = 0 then
      some (signed negative (m.quanta / Magnitude.quantaInOne))
    else
      none
  | _ => none

end Double

end MathScan
