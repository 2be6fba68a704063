import MathScan.Double.Basic

/-
  Arguments of any kind, for the two doors of the library that
  take what they are given and refuse the wrong kinds: the
  source of a scanner, and the value of a number token.

  Key definitions include:
    * `Argument`
    * `Argument.kind`
-/

namespace MathScan

/- An argument of some kind. -/
inductive Argument where
  | missing
  | truth (b : Bool)
  | integer (n : Int)
  | double (x : Double)
  | text (s : String)
  | bytes
  | list
  | record
deriving DecidableEq

def Argument.kind : Argument → String
  | missing => "NoneType"
  | truth _ => "bool"
  | integer _ => "int"
  | double _ => "float"
  | text _ => "str"
  | bytes => "bytes"
  | list => "list"
  | record => "dict"

end MathScan
