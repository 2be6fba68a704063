/-
  The kinds of token, and the characters that decide which
  kind a token has.

  Key definitions include:
    * `TokenKind`
    * `symbols`
    * `isSymbol`
    * `digits`
-/

namespace MathScan

------------------------------------------------------------
-- Kinds
------------------------------------------------------------

/- The kinds of token. The end of the source is no token. -/
inductive TokenKind where
  | symbol
  | number
  | name
  | string
deriving DecidableEq

namespace TokenKind

def all : List TokenKind :=
  [symbol, number, name, string]

def label : TokenKind → String
  | symbol => "SYMBOL"
  | number => "NUMBER"
  | name => "NAME"
  | string => "STRING"

end TokenKind

------------------------------------------------------------
-- Characters
------------------------------------------------------------

def symbols : List Char :=
  ['+', '-', ';', '=']

/- The symbol that ends a statement. -/
def terminator : Char :=
  ';'

def isSymbol
    (c : Char) : Bool :=
  symbols.contains c

/- The digits that numbers are written with. -/
def digits : List Char :=
  ['0', '1', '2', '3', '4', '5', '6', '7', '8', '9']

/- The digits are those of ASCII. -/
theorem mem_digits_iff
    (c : Char) :
    c ∈ digits ↔ c.isDigit = true := by
  simp only [Char.isDigit, digits, List.mem_cons,
    List.not_mem_nil, or_false, Bool.and_eq_true,
    decide_eq_true_eq, UInt32.le_iff_toNat_le, ← Char.toNat_inj]
  simp
  omega

/- Whether a text is one symbol. -/
def isSymbolText
    (s : String) : Bool :=
  symbols.any (fun c => s == String.singleton c)

/- Whether a text is one digit. -/
def isDigitText
    (s : String) : Bool :=
  digits.any (fun c => s == String.singleton c)

end MathScan
