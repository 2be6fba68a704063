import MathScan.Location
import MathScan.Text.Case.Upper

/-
  Diagnostics: what is reported about a place in a source, on
  several lines.

  Key definitions include:
    * `Diagnostic`
    * `Diagnostic.header`
    * `Diagnostic.text`
-/

namespace MathScan

/-
  A report on a place in a source. An empty code, help text or
  list of suggestions is left out, as one that is not there.
-/
structure Diagnostic where
  message : String
  location : Location
  severity : String
  code : Option String
  help : Option String
  suggestions : Option (List String)
deriving DecidableEq

namespace Diagnostic

/- The first line: severity in capitals, code and message. -/
def header
    (d : Diagnostic) : String :=
  let code := d.code.getD ""
  String.ofList (Text.uppercase d.severity.toList) ++
    (if code = "" then "" else "[" ++ code ++ "]") ++ ": " ++
    d.message

/- The line with the help text, if there is one. -/
def helpLine
    (d : Diagnostic) : String :=
  let help := d.help.getD ""
  if help = "" then "" else "  help: " ++ help ++ "\n"

/- The lines with the suggestions, if there are some. -/
def suggestionLines
    (d : Diagnostic) : String :=
  let suggestions := d.suggestions.getD []
  if suggestions = [] then
    ""
  else
    "  suggestions:\n" ++
      String.join
        (suggestions.map (fun s => "    - " ++ s ++ "\n"))

def text
    (d : Diagnostic) : String :=
  d.header ++ "\n" ++ "  --> " ++ d.location.text ++ "\n" ++
    d.helpLine ++ d.suggestionLines

end Diagnostic

end MathScan
