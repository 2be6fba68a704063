import MathScan.Diagnostic

/-
  What can go wrong in a scan.

  Key definitions include:
    * `ScanError`
    * `ScanError.diagnostic`
    * `errorCodes`
-/

namespace MathScan

/- The codes of scan errors, with a title for each. -/
def errorCodes : List (String × String) :=
  [("L001", "Malformed string literal"),
    ("L002", "Unterminated string literal"),
    ("L003", "Read past end of source")]

/- Why a scanner cannot answer, and where. -/
inductive ScanError where
  /- A string was to be read where something else stands. -/
  | malformedString (found : String) (place : Location)
  /- A string has no closing quote. -/
  | unterminatedString (place : Location)
  /- A character was to be read outside of the source. -/
  | readPastEnd (offset length : Int) (place : Location)
  /- Any other error, in the words of its reporter. -/
  | reported
      (message : String)
      (place : Location)
      (code help : Option String)
      (suggestions : Option (List String))
deriving DecidableEq

namespace ScanError

def diagnostic : ScanError → Diagnostic
  | malformedString found place =>
    { message := "Strings must start with opening quotes"
      location := place
      severity := "error"
      code := some "L001"
      help := some
        ("Found " ++ Text.quoted found ++
          " where a '\"' was expected.")
      suggestions := none }
  | unterminatedString place =>
    { message := "Unterminated string literal"
      location := place
      severity := "error"
      code := some "L002"
      help := some
        "String literals must be closed with a matching \" quote."
      suggestions := some
        ["Add a closing \" quote",
          "Strings cannot contain quotes, " ++
            "there are no escape sequences"] }
  | readPastEnd offset length place =>
    { message :=
        "Read at offset " ++ toString offset ++
          " is outside of the source (length " ++
          toString length ++ ")"
      location := place
      severity := "error"
      code := some "L003"
      help := some
        ("This is a scanner bug, " ++
          "the cursor should never leave the source.")
      suggestions := none }
  | reported message place code help suggestions =>
    { message := message
      location := place
      severity := "error"
      code := code
      help := help
      suggestions := suggestions }

def location
    (e : ScanError) : Location :=
  e.diagnostic.location

def code
    (e : ScanError) : Option String :=
  e.diagnostic.code

def text
    (e : ScanError) : String :=
  e.diagnostic.text

end ScanError

end MathScan
