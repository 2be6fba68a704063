import MathScan.Text.Span

/-
  Blank characters: the white space between tokens, and what
  is trimmed off the ends of a setting.

  Key definitions include:
    * `isBlank`
    * `trim`
-/

namespace MathScan.Text

------------------------------------------------------------
-- The class
------------------------------------------------------------

/- Blank code points, in order. -/
def blankSpans : List Span := [
  (0x9, 0xD), (0x1C, 0x20), (0x85, 0x85), (0xA0, 0xA0),
  (0x1680, 0x1680), (0x2000, 0x200A), (0x2028, 0x2029),
  (0x202F, 0x202F), (0x205F, 0x205F), (0x3000, 0x3000)]

/- Whether a character is white space. -/
def isBlank
    (c : Char) : Bool :=
  Span.cover blankSpans c.toNat

------------------------------------------------------------
-- Trimming
------------------------------------------------------------

/- A text without the blanks at its two ends. -/
def trim
    (cs : List Char) : List Char :=
  ((cs.dropWhile isBlank).reverse.dropWhile isBlank).reverse

end MathScan.Text
