import MathScan.Text.Printable

/-
  Quoted text: a text between quotes, on one line and in
  printable characters only. The quotes are single, unless
  the text holds a single quote and no double one.

  Key definitions include:
    * `hexDigits`
    * `quoteMark`
    * `escape`
    * `quoted`
-/

namespace MathScan.Text

def singleQuote : Char :=
  '\x27'

def doubleQuote : Char :=
  '\x22'

------------------------------------------------------------
-- Hexadecimal digits
------------------------------------------------------------

/- The lower-case hexadecimal digit of a number below sixteen. -/
def hexDigit
    (n : Nat) : Char :=
  if n < 10 then Char.ofNat (48 + n) else Char.ofNat (87 + n)

/- The last `width` hexadecimal digits of a number. -/
def hexDigits : (width n : Nat) → List Char
  | 0, _ => []
  | width + 1, n =>
    hexDigits width (n / 16) ++ [hexDigit (n % 16)]

------------------------------------------------------------
-- Escapes
------------------------------------------------------------

/-
  The escape of an unprintable character by its number, in
  the narrowest of three widths.
-/
def escapeByNumber
    (c : Char) : List Char :=
  if c.toNat < 0x100 then
    '\\' :: 'x' :: hexDigits 2 c.toNat
  else if c.toNat < 0x10000 then
    '\\' :: 'u' :: hexDigits 4 c.toNat
  else
    '\\' :: 'U' :: hexDigits 8 c.toNat

/- How a character is written between the quotes `mark`. -/
def escape
    (mark c : Char) : List Char :=
  if c = mark ∨ c = '\\' then
    ['\\', c]
  else if c = '\t' then
    ['\\', 't']
  else if c = '\n' then
    ['\\', 'n']
  else if c = '\r' then
    ['\\', 'r']
  else if isPrintable c then
    [c]
  else
    escapeByNumber c

------------------------------------------------------------
-- Quoted text
------------------------------------------------------------

/- The quotes that a text is put between. -/
def quoteMark
    (cs : List Char) : Char :=
  if singleQuote ∈ cs ∧ doubleQuote ∉ cs then
    doubleQuote
  else
    singleQuote

/- The characters of a text put between quotes. -/
def quotedChars
    (cs : List Char) : List Char :=
  quoteMark cs ::
    cs.flatMap (escape (quoteMark cs)) ++ [quoteMark cs]

def quoted
    (s : String) : String :=
  String.ofList (quotedChars s.toList)

end MathScan.Text
