import MathScan.NumberMode
import MathScan.Text.Blank
import MathScan.Token.Kind

/-
  The lexeme at the front of a run of characters without
  blanks. Its first character alone decides its kind.

  Key definitions include:
    * `quote`
    * `continuesRun`
    * `continuesName`
    * `detachTerminator`
    * `frontLexeme`

  The key statement is `length_frontLexeme_pos`: a lexeme is
  not empty.
-/

namespace MathScan

------------------------------------------------------------
-- Character classes
------------------------------------------------------------

/- The mark at both ends of a string. -/
def quote : Char :=
  '\x22'

/- Whether a character belongs to the run before it. -/
def continuesRun
    (c : Char) : Bool :=
  !Text.isBlank c

/- Whether a character of a run belongs to the name before it. -/
def continuesName
    (c : Char) : Bool :=
  !isSymbol c && !c.isDigit

------------------------------------------------------------
-- Lexemes
------------------------------------------------------------

/-
  What follows the first character of a run, without the
  terminator at its end, which is never part of a lexeme that
  it follows.
-/
def detachTerminator
    (more : List Char) : List Char :=
  if more.getLast? = some terminator then
    more.dropLast
  else
    more

/- The digits of a run that belong to the digit before them. -/
def moreDigits
    (more : List Char) : NumberMode → List Char
  | .singleDigit => []
  | .greedy => more.takeWhile Char.isDigit

/-
  The kind and the characters of the lexeme at the front of
  the run `first :: more`: a symbol, a number, or a name up to
  the next symbol or digit.
-/
def frontLexeme
    (mode : NumberMode)
    (first : Char)
    (more : List Char) : TokenKind × List Char :=
  if isSymbol first then
    (.symbol, [first])
  else if first.isDigit then
    (.number, first :: moreDigits more mode)
  else
    (.name, first :: more.takeWhile continuesName)

------------------------------------------------------------
-- Lengths
------------------------------------------------------------

/- A lexeme has at least its first character. -/
theorem length_frontLexeme_pos
    (mode : NumberMode)
    (first : Char)
    (more : List Char) :
    0 < (frontLexeme mode first more).2.length := by
  unfold frontLexeme
  split
  · simp
  · split <;> simp

end MathScan
