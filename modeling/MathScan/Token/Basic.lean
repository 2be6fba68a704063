import MathScan.Double.Shortest
import MathScan.Location
import MathScan.Token.Kind

/-
  Tokens: what a program text is made of.

  Key definitions include:
    * `Value`
    * `Token`
    * `Token.same`
    * `Token.text`
    * `Token.record`
    * `Token.ofSymbol`
    * `Token.ofName`
    * `Token.ofNumber`
    * `Token.ofString`
-/

namespace MathScan

------------------------------------------------------------
-- Values
------------------------------------------------------------

/- What a token means: a text, or a number. -/
inductive Value where
  | text (s : String)
  | number (x : Double)
deriving DecidableEq

namespace Value

/-
  Equality of values. Numbers are equal by value, and never
  equal to a text.
-/
def same : Value → Value → Bool
  | text s, text t => s == t
  | number x, number y => x.same y
  | _, _ => false

/- A value as it is written out in the text of a token. -/
def record : Value → String
  | text s => Text.quoted s
  | number x => x.text

end Value

------------------------------------------------------------
-- Tokens
------------------------------------------------------------

/-
  A token: its kind, its characters as they stand in the
  source, its meaning, and where it stands, if it stands
  somewhere.
-/
structure Token where
  kind : TokenKind
  lexeme : String
  value : Value
  location : Option Location
deriving DecidableEq

namespace Token

/- Equality of tokens, wherever they stand. -/
def same
    (t u : Token) : Bool :=
  t.kind == u.kind && t.lexeme == u.lexeme &&
    t.value.same u.value

/-
  The text of a token for readers. The value is written out
  where it is not just the lexeme.
-/
def text
    (t : Token) : String :=
  t.kind.label ++ "(" ++ Text.quoted t.lexeme ++
    (if t.value = .text t.lexeme then
      ""
    else
      " -> " ++ t.value.record) ++ ")"

/- The text of a token with all its fields. -/
def record
    (t : Token) : String :=
  "Token(" ++ t.kind.label ++ ", " ++ Text.quoted t.lexeme ++
    ", " ++ t.value.record ++ ", " ++
    t.location.elim "None" Location.record ++ ")"

------------------------------------------------------------
-- Tokens of each kind
------------------------------------------------------------

def ofSymbol
    (c : Char)
    (place : Option Location) : Token :=
  ⟨.symbol, String.singleton c, .text (String.singleton c),
    place⟩

def ofName
    (name : String)
    (place : Option Location) : Token :=
  ⟨.name, name, .text name, place⟩

/- The token of a number with a given lexeme. -/
def ofNumber
    (x : Double)
    (lexeme : String)
    (place : Option Location) : Token :=
  ⟨.number, lexeme, .number x, place⟩

/-
  The token of a string with a given content. The lexeme
  keeps the quotes, which are no part of the meaning.
-/
def ofString
    (content : String)
    (place : Option Location) : Token :=
  ⟨.string, "\"" ++ content ++ "\"", .text content, place⟩

end Token

end MathScan
