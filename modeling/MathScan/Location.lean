import MathScan.Text.Quoted

/-
  Locations in a source text, for tokens and for diagnostics.

  Key definitions include:
    * `Location`
    * `Location.text`
    * `Location.record`
-/

namespace MathScan

/-
  A place in a named source. Lines and columns count from one,
  offsets from zero. The numbers of a location that is built
  by hand are not checked.
-/
structure Location where
  filename : String
  line : Int
  column : Int
  offset : Int
deriving DecidableEq

namespace Location

/- The text of a location for readers: name, line and column. -/
def text
    (place : Location) : String :=
  place.filename ++ ":" ++ toString place.line ++ ":" ++
    toString place.column

/- The text of a location with all its fields. -/
def record
    (place : Location) : String :=
  "SourceLocation(" ++ Text.quoted place.filename ++ ", " ++
    toString place.line ++ ", " ++ toString place.column ++
    ", " ++ toString place.offset ++ ")"

end Location

end MathScan
