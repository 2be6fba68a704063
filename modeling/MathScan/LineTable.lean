/-
  The line table of a text: the offsets where its lines begin.
  A place is looked up by the line starts at or before it, so
  that no lookup reads the text again. Only the line feed ends
  a line.

  Key definitions include:
    * `LineTable`
    * `LineTable.ofChars`
    * `LineTable.line`
    * `LineTable.column`
-/

namespace MathScan

/- Where the lines of a text begin, in ascending order. -/
structure LineTable where
  starts : List Nat
deriving DecidableEq

namespace LineTable

/- The line starts behind the line feeds from an offset on. -/
def startsAfter
    (offset : Nat) : List Char → List Nat
  | [] => []
  | c :: rest =>
    if c = '\n' then
      (offset + 1) :: startsAfter (offset + 1) rest
    else
      startsAfter (offset + 1) rest

/- The line table of a text; its first line begins at zero. -/
def ofChars
    (cs : List Char) : LineTable :=
  ⟨0 :: startsAfter 0 cs⟩

/- The line starts at or before an offset. -/
def startsUpTo
    (table : LineTable)
    (offset : Nat) : List Nat :=
  table.starts.takeWhile (· ≤ offset)

/- The line of an offset, counted from one. -/
def line
    (table : LineTable)
    (offset : Nat) : Nat :=
  (table.startsUpTo offset).length

/- The column of an offset, counted from one. -/
def column
    (table : LineTable)
    (offset : Nat) : Nat :=
  offset - (table.startsUpTo offset).getLastD 0 + 1

end LineTable

end MathScan
