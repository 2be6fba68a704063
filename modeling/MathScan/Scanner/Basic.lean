import MathScan.LineTable
import MathScan.NumberMode
import MathScan.ScanError

/-
  Scanners: a source text with a cursor in it. The cursor only
  moves forward. A new scanner reads the same text again.

  Key definitions include:
    * `Scanner`
    * `Scanner.ofText`
    * `Scanner.advance`
    * `Scanner.place`
    * `Scanner.peek`
    * `Scanner.read`
-/

namespace MathScan

------------------------------------------------------------
-- The scanner
------------------------------------------------------------

/-
  A scanner keeps what follows its cursor, and the line table
  of its source, beside the source itself. Its name and its
  mode may be changed between two reads.
-/
structure Scanner where
  source : List Char
  lines : LineTable
  filename : String
  mode : NumberMode
  position : Nat
  rest : List Char
  lines_eq : lines = LineTable.ofChars source
  rest_eq : rest = source.drop position

/- The name of a source that comes without one. -/
def Scanner.defaultName : String :=
  "<string>"

namespace Scanner

/- A scanner at the start of a source. -/
def ofChars
    (source : List Char)
    (filename : String)
    (mode : NumberMode) : Scanner :=
  { source := source
    lines := LineTable.ofChars source
    filename := filename
    mode := mode
    position := 0
    rest := source
    lines_eq := rfl
    rest_eq := rfl }

def ofText
    (source : String)
    (filename : String)
    (mode : NumberMode) : Scanner :=
  ofChars source.toList filename mode

------------------------------------------------------------
-- Changes
------------------------------------------------------------

/- Moves the cursor forward by some characters. -/
def advance
    (s : Scanner)
    (n : Nat) : Scanner :=
  { s with
    position := s.position + n
    rest := s.rest.drop n
    rest_eq := by rw [s.rest_eq, List.drop_drop] }

def rename
    (s : Scanner)
    (filename : String) : Scanner :=
  { s with filename := filename }

def setMode
    (s : Scanner)
    (mode : NumberMode) : Scanner :=
  { s with mode := mode }

------------------------------------------------------------
-- Places
------------------------------------------------------------

/- The location of an offset, which may lie past the end. -/
def place
    (s : Scanner)
    (offset : Nat) : Location :=
  { filename := s.filename
    line := s.lines.line offset
    column := s.lines.column offset
    offset := offset }

/- The location of the cursor. -/
def here
    (s : Scanner) : Location :=
  s.place s.position

/- Whether nothing follows the cursor. -/
def atEnd
    (s : Scanner) : Bool :=
  s.rest.isEmpty

------------------------------------------------------------
-- Single characters
------------------------------------------------------------

/- The error of a read at the end of the source. -/
def overrun
    (s : Scanner) : ScanError :=
  .readPastEnd s.position s.source.length
    (s.place s.source.length)

/- The character at the cursor. -/
def peek
    (s : Scanner) : Except ScanError Char :=
  match s.rest with
  | [] => .error s.overrun
  | c :: _ => .ok c

/- The character at the cursor, which is moved behind it. -/
def read
    (s : Scanner) : Except ScanError Char × Scanner :=
  match s.rest with
  | [] => (.error s.overrun, s)
  | c :: _ => (.ok c, s.advance 1)

end Scanner

end MathScan
