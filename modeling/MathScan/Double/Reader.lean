import MathScan.Double.Rounding
import MathScan.Text.Blank
import MathScan.Text.DecimalDigit

/-
  Reading a double from text: an optional sign, then digits
  with a point and an exponent, or the name of infinity or of
  NaN in any case. Single underscores may stand between
  digits, and spaces at both ends.

  Key definitions include:
    * `Double.plainDigits`
    * `Double.joinDigits`
    * `Double.readUnsigned`
    * `Double.read?`
-/

namespace MathScan.Double

open MathScan.Text

------------------------------------------------------------
-- Plain characters
------------------------------------------------------------

/- Whether a character is a space within ASCII. -/
def isPlainSpace
    (c : Char) : Bool :=
  9 ≤ c.toNat && c.toNat ≤ 13 || c == ' '

/-
  A character in a text that is not all ASCII: blanks become
  spaces, digits of any script plain digits, and all others
  a character that no number holds.
-/
def plainChar
    (c : Char) : Char :=
  if c.toNat < 127 then
    c
  else if isBlank c then
    ' '
  else
    match decimalDigit? c with
    | some n => Nat.digitChar n
    | none => '?'

/- A text with spaces and digits in ASCII. -/
def plainDigits
    (cs : List Char) : List Char :=
  if cs.all (fun c => c.toNat < 128) then
    cs
  else
    cs.map plainChar

/- A text without the ASCII spaces at its two ends. -/
def trimSpaces
    (cs : List Char) : List Char :=
  ((cs.dropWhile isPlainSpace).reverse.dropWhile
    isPlainSpace).reverse

/-
  Takes out the underscores. Each of them must stand between
  two digits.
-/
def joinDigits
    (afterDigit : Bool) : List Char → Option (List Char)
  | [] => some []
  | ['_'] => none
  | '_' :: c :: rest =>
    if afterDigit && c.isDigit then
      joinDigits false (c :: rest)
    else
      none
  | c :: rest => (joinDigits c.isDigit rest).map (c :: ·)

------------------------------------------------------------
-- The grammar
------------------------------------------------------------

/- Takes off a sign and tells whether it is a minus. -/
def readSign : List Char → Bool × List Char
  | '-' :: rest => (true, rest)
  | '+' :: rest => (false, rest)
  | cs => (false, cs)

/- Reads an exponent with its mark, or nothing. -/
def readExponent? : List Char → Option Int
  | [] => some 0
  | c :: rest =>
    if c = 'e' ∨ c = 'E' then
      let (negative, ds) := readSign rest
      if ds ≠ [] ∧ ds.all Char.isDigit then
        some (signed negative (Nat.ofDigitChars 10 ds 0))
      else
        none
    else
      none

/- Takes off the digits after a point, if there is one. -/
def readFraction : List Char → List Char × List Char
  | '.' :: rest => rest.span Char.isDigit
  | cs => ([], cs)

/- Reads digits with a point and an exponent. -/
def readUnsigned?
    (cs : List Char) : Option Decimal :=
  let (whole, afterWhole) := cs.span Char.isDigit
  let (fraction, rest) := readFraction afterWhole
  if whole ++ fraction = [] then
    none
  else
    (readExponent? rest).map fun e =>
      ⟨Nat.ofDigitChars 10 (whole ++ fraction) 0,
        e - fraction.length⟩

def infinityNames : List (List Char) :=
  ["inf".toList, "infinity".toList]

/- Reads a double with all its characters plain. -/
def readPlain?
    (cs : List Char) : Option Double :=
  let (negative, rest) := readSign cs
  let word := rest.map Char.toLower
  if word ∈ infinityNames then
    some (.infinite negative)
  else if word = "nan".toList then
    some .nan
  else
    (readUnsigned? rest).map (ofDecimal negative)

def read?
    (cs : List Char) : Option Double :=
  (joinDigits false (trimSpaces (plainDigits cs))).bind
    readPlain?

end MathScan.Double
