/-
  Spans of code points, for character classes that only a
  table can give.

  Key definitions include:
    * `Span`
    * `Span.cover`
-/

namespace MathScan.Text

------------------------------------------------------------
-- Spans and their search
------------------------------------------------------------

/- All code points from the first number up to the second. -/
abbrev Span :=
  Nat × Nat

namespace Span

/-
  Whether some span of an ascending table holds a number. The
  search ends at the first span that lies behind it.
-/
def cover : List Span → Nat → Bool
  | [], _ => false
  | (first, last) :: rest, n =>
    if n < first then
      false
    else
      n ≤ last || cover rest n

end Span

end MathScan.Text
