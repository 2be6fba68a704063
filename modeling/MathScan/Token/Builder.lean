import MathScan.Argument
import MathScan.Double.Reader
import MathScan.Token.Basic

/-
  Tokens built by hand, from arguments that may be refused.

  Key definitions include:
    * `TokenError`
    * `TokenError.message`
    * `Token.symbol?`
    * `Double.ofArgument?`
    * `Double.lexeme`
    * `Token.number?`
-/

namespace MathScan

------------------------------------------------------------
-- Refusals
------------------------------------------------------------

/- Why a token cannot be built. -/
inductive TokenError where
  /- The text is no symbol. -/
  | notSymbol (text : String)
  /- The text does not spell a number. -/
  | notNumber (text : String)
  /- An argument of this kind is no number. -/
  | wrongKind (given : Argument)
  /- The integer rounds to more than the largest double. -/
  | tooLarge
deriving DecidableEq

def TokenError.message : TokenError → String
  | notSymbol text =>
    "Not a MathLang symbol: " ++ Text.quoted text
  | notNumber text =>
    "could not convert string to float: " ++ Text.quoted text
  | wrongKind given =>
    "float() argument must be a string or a real number, not '"
      ++ given.kind ++ "'"
  | tooLarge => "int too large to convert to float"

------------------------------------------------------------
-- Numbers
------------------------------------------------------------

namespace Double

/- The double that an argument stands for. -/
def ofArgument? : Argument → Except TokenError Double
  | .double x => .ok x
  | .truth b => .ok (ofBool b)
  | .integer n =>
    match ofInt? n with
    | some x => .ok x
    | none => .error .tooLarge
  | .text s =>
    match read? s.toList with
    | some x => .ok x
    | none => .error (.notNumber s)
  | given => .error (.wrongKind given)

/-
  The lexeme of a double that comes without one: the plain
  integer where it is equal to one, and its text otherwise.
-/
def lexeme
    (x : Double) : String :=
  match x.integral? with
  | some n => toString n
  | none => x.text

end Double

------------------------------------------------------------
-- Tokens
------------------------------------------------------------

namespace Token

/- The token of a symbol, from a text that must be one. -/
def symbol?
    (text : String)
    (place : Option Location) : Except TokenError Token :=
  if isSymbolText text then
    .ok ⟨.symbol, text, .text text, place⟩
  else
    .error (.notSymbol text)

/- The token of a number, with or without a given lexeme. -/
def number?
    (given : Argument)
    (lexeme : Option String)
    (place : Option Location) : Except TokenError Token :=
  (Double.ofArgument? given).map fun x =>
    ofNumber x (lexeme.getD x.lexeme) place

end Token

end MathScan
