import MathScan.CommandLine.Arguments
import MathScan.Files.Reading

/-
  Where a run gets its text from: a file, or the standard
  input. Files are read in one way. How the standard input is
  read depends on the surroundings: they may keep its line
  ends as they are, accept other bytes than UTF-8, or have no
  standard input at all.

  Key definitions include:
    * `InputFault`
    * `readWith`
    * `World`
    * `World.reading`
    * `Crash`
    * `readSource`
-/

namespace MathScan.CommandLine

------------------------------------------------------------
-- The standard input
------------------------------------------------------------

/- Why a standard input gives no text. -/
inductive InputFault (closed : Bool) where
  /- There is none. -/
  | missing (hClosed : closed = true)
  /- It cannot be read, in the words of the system. -/
  | notRead (reason : String)
  /- Its bytes are not UTF-8. -/
  | notUtf8 (fault : Text.Utf8.Fault)
deriving DecidableEq

/- What a read of a standard input comes to. -/
abbrev InputReading (closed : Bool) :=
  Except (InputFault closed) (List Char)

/- Reads bytes by what they spell. -/
def readWith
    {closed : Bool}
    (spelled : List UInt8 → Except Text.Utf8.Fault (List Char))
    (bytes : List UInt8) : InputReading closed :=
  (spelled bytes).mapError .notUtf8

------------------------------------------------------------
-- Surroundings
------------------------------------------------------------

/-
  What a run depends on besides its arguments: the environment
  variables, the files, and the standard input, by its bytes
  and what a read makes of them, which is what it makes of a
  file unless it is said otherwise. No text has other code
  points than Unicode scalar values. A standard input that is
  closed is not there.
-/
structure World (closed : Bool := false) where
  lookup : String → Option String
  opener : Opener
  input : List UInt8
  read : List UInt8 → InputReading closed := readWith decodeText

/- What a read of the standard input comes to. -/
def World.reading :
    {closed : Bool} → World closed → InputReading closed
  | true, _ => .error (.missing rfl)
  | false, world => world.read world.input

/- Why a run stops without an outcome. -/
inductive Crash (closed : Bool := false) where
  /- The path of the file holds the zero character. -/
  | zeroInPath
  /- The input is not UTF-8. -/
  | notUtf8 (fault : Text.Utf8.Fault)
  /- There is no standard input. -/
  | noInput (hClosed : closed = true)
deriving DecidableEq

variable {closed : Bool}

def Crash.message : Crash closed → String
  | zeroInPath => (ReadFault.zeroInPath).message ""
  | notUtf8 fault => fault.message
  | noInput _ => "'NoneType' object has no attribute 'read'"

------------------------------------------------------------
-- Sources
------------------------------------------------------------

def inputName : String :=
  "<stdin>"

/- The file to read; an empty name stands for no file. -/
def chosenFile
    (arguments : Arguments) : Option String :=
  arguments.file.filter (fun path => path ≠ "")

/- Why there is no source: a run crashes, or it says why. -/
inductive SourceFault (closed : Bool) where
  | crash (crash : Crash closed)
  | unread (reason : String)
deriving DecidableEq

/- What a run makes of a fault of the standard input. -/
def InputFault.asSource : InputFault closed → SourceFault closed
  | missing hClosed => .crash (.noInput hClosed)
  | notRead reason => .unread reason
  | notUtf8 fault => .crash (.notUtf8 fault)

/- What a run makes of a fault of the file at a path. -/
def fileFault
    (path : String) : ReadFault → SourceFault closed
  | .zeroInPath => .crash .zeroInPath
  | .notOpened fault => .unread (fault.message path)
  | .notUtf8 fault => .crash (.notUtf8 fault)

/-
  The name and the text of the source: those of a file, or of
  the standard input if there is no file to read.
-/
def readSource
    (world : World closed)
    (arguments : Arguments) :
    Except (SourceFault closed) (String × List Char) :=
  match chosenFile arguments with
  | none =>
    match world.reading with
    | .error fault => .error fault.asSource
    | .ok source => .ok (inputName, source)
  | some path =>
    match readText world.opener path with
    | .error fault => .error (fileFault path fault)
    | .ok source => .ok (path, source)

end MathScan.CommandLine
