import MathScan.Text.Newlines
import MathScan.Text.Quoted
import MathScan.Text.Utf8

/-
  Reading texts from files. A file is opened by its path, its
  bytes are read as UTF-8, and its lines end with line feeds
  afterwards. Each of these steps may fail.

  Key definitions include:
    * `OpenFault`
    * `OpenFault.message`
    * `Opener`
    * `ReadFault`
    * `decodeText`
    * `readText`
-/

namespace MathScan

------------------------------------------------------------
-- Opening
------------------------------------------------------------

/- Why a file cannot be opened. -/
inductive OpenFault where
  /- There is no such file. -/
  | missing
  /- The path goes on behind a file. -/
  | throughFile
  /- The path leads to a directory. -/
  | isDirectory
  /- The path, or a name in it, is too long. -/
  | nameTooLong
  /- Any other reason of the system, by number and wording. -/
  | other (number : Nat) (reason : String)
deriving DecidableEq

namespace OpenFault

def number : OpenFault → Nat
  | missing => 2
  | throughFile => 20
  | isDirectory => 21
  | nameTooLong => 36
  | other number _ => number

def reason : OpenFault → String
  | missing => "No such file or directory"
  | throughFile => "Not a directory"
  | isDirectory => "Is a directory"
  | nameTooLong => "File name too long"
  | other _ reason => reason

/- The fault that the system reports by number and wording. -/
def ofNumber
    (number : Nat)
    (reason : String) : OpenFault :=
  match number with
  | 2 => missing
  | 20 => throughFile
  | 21 => isDirectory
  | 36 => nameTooLong
  | _ => other number reason.capitalize

/- The wording of a failure that has no path. -/
def wording
    (fault : OpenFault) : String :=
  "[Errno " ++ toString fault.number ++ "] " ++ fault.reason

/- The wording of a failure to open a path. -/
def message
    (fault : OpenFault)
    (path : String) : String :=
  fault.wording ++ ": " ++ Text.quoted path

end OpenFault

/- A way to open files: the bytes at a path, or why not. -/
abbrev Opener :=
  String → Except OpenFault (List UInt8)

------------------------------------------------------------
-- Reading
------------------------------------------------------------

/- Why a text cannot be read. -/
inductive ReadFault where
  /- A path cannot hold the zero character. -/
  | zeroInPath
  /- The file cannot be opened. -/
  | notOpened (fault : OpenFault)
  /- The bytes are not UTF-8. -/
  | notUtf8 (fault : Text.Utf8.Fault)
deriving DecidableEq

def ReadFault.message
    (path : String) : ReadFault → String
  | zeroInPath => "embedded null byte"
  | notOpened fault => fault.message path
  | notUtf8 fault => fault.message

/- The text that bytes spell, with its newlines unified. -/
def decodeText
    (bytes : List UInt8) :
    Except Text.Utf8.Fault (List Char) :=
  (Text.Utf8.decode bytes).map Text.unifyNewlines

def holdsZero
    (path : String) : Bool :=
  path.toList.contains '\x00'

def readText
    (opener : Opener)
    (path : String) : Except ReadFault (List Char) :=
  if holdsZero path then
    .error .zeroInPath
  else
    match opener path with
    | .error fault => .error (.notOpened fault)
    | .ok bytes => (decodeText bytes).mapError .notUtf8

end MathScan
