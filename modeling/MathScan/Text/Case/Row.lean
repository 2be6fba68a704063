/-
  Rows of a case table. A row gives every code point of an
  arithmetic progression the same shift, which keeps the
  tables short: most scripts put their two cases a fixed
  distance apart, or side by side.

  Key definitions include:
    * `CaseRow`
    * `CaseRow.holds`
    * `CaseRow.apply`
    * `CaseRow.find`
-/

namespace MathScan.Text

/-
  The code points `first`, `first + step`, up to `last`, each
  with its other case `shift` further on.
-/
structure CaseRow where
  first : Nat
  last : Nat
  step : Nat
  shift : Int
deriving DecidableEq

namespace CaseRow

/- Whether a row holds a code point. -/
def holds
    (row : CaseRow)
    (n : Nat) : Bool :=
  row.first ≤ n && n ≤ row.last &&
    (n - row.first) % row.step == 0

/- The other case of a code point of the row. -/
def apply
    (row : CaseRow)
    (n : Nat) : Nat :=
  (n + row.shift).toNat

/-
  The other case of a character by a table; a character that
  no row holds stays as it is.
-/
def find
    (rows : List CaseRow)
    (c : Char) : Char :=
  match rows.find? (fun row => row.holds c.toNat) with
  | some row => Char.ofNat (row.apply c.toNat)
  | none => c

end CaseRow

end MathScan.Text
