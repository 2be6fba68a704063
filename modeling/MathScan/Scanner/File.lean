import MathScan.Files.Reading
import MathScan.Scanner.Drain

/-
  Scanning files. The path, as it is given, is the name of the
  source.

  Key definitions include:
    * `FileError`
    * `tokenizeFile`
-/

namespace MathScan

/- Why the tokens of a file cannot be told. -/
inductive FileError where
  /- The file cannot be read. -/
  | unread (fault : ReadFault)
  /- Its text cannot be scanned. -/
  | unscanned (e : ScanError)
deriving DecidableEq

def tokenizeFile
    (opener : Opener)
    (path : String)
    (mode : NumberMode) : Except FileError (List Token) :=
  match readText opener path with
  | .error fault => .error (.unread fault)
  | .ok source =>
    (Scanner.ofChars source path mode).tokenize.1.mapError
      .unscanned

end MathScan
