import Mathlib
import MathScan.Proofs.Lines

/-
  Places and offsets. The line table tells where an offset is
  just as a count of the line feeds before it does. An offset
  behind another one has a later place, the table leads from
  the place back to the offset, and so the text of a location
  is enough to know its offset.

  Key definitions include:
    * `LineTable.offset?`
    * `Scanner.Locates`

  The key statements are:
    * `Location.text_inj`
    * `LineTable.offset?_line_column`
    * `LineTable.lex_of_lt`
    * `Scanner.place_locates`
-/

------------------------------------------------------------
-- The Text of a Location
------------------------------------------------------------

namespace MathScan

namespace Location

theorem isDigit_of_mem_toString
    {n : Int}
    {c : Char}
    (hMem : c ∈ (toString n).toList) :
    c = '-' ∨ c.isDigit = true := by
  have hNatural (k : Nat) (hDigits : c ∈ k.repr.toList) :
      c.isDigit = true := by
    rw [Nat.toList_repr] at hDigits
    exact
      Nat.isDigit_of_mem_toDigits (by decide) (by decide) hDigits
  rw [Int.toString_eq_repr, Int.repr_eq_if] at hMem
  split at hMem
  · exact .inr (hNatural n.toNat hMem)
  · rw [String.toList_append] at hMem
    rcases List.mem_append.mp hMem with hSign | hDigits
    · exact .inl (List.mem_singleton.mp hSign)
    · exact .inr (hNatural (-n).toNat hDigits)

theorem colon_notMem_toString
    (n : Int) :
    ':' ∉ (toString n).toList := by
  intro hMem
  have hColon := isDigit_of_mem_toString hMem
  revert hColon
  decide

/- The characters of a location, parted at the last colon. -/
theorem toList_text
    (place : Location) :
    place.text.toList =
      (place.filename.toList ++
          ':' :: (toString place.line).toList) ++
        ':' :: (toString place.column).toList := by
  simp [text]

/-
  The text of a location tells its name, its line and its
  column, whatever colons the name has.
-/
theorem text_inj
    {place other : Location}
    (hText : place.text = other.text) :
    place.filename = other.filename ∧
      place.line = other.line ∧
      place.column = other.column := by
  have hChars := congrArg String.toList hText
  rw [toList_text, toList_text] at hChars
  rcases append_mark_inj
      (colon_notMem_toString place.column)
      (colon_notMem_toString other.column) hChars with
    ⟨hFront, hColumn⟩
  rcases append_mark_inj
      (colon_notMem_toString place.line)
      (colon_notMem_toString other.line) hFront with
    ⟨hName, hLine⟩
  refine ⟨String.toList_injective hName, ?_, ?_⟩
  · exact Int.repr_inj.mp (String.toList_injective hLine)
  · exact Int.repr_inj.mp (String.toList_injective hColumn)

end Location

end MathScan

------------------------------------------------------------
-- Ascending Line Starts
------------------------------------------------------------

namespace MathScan

namespace LineTable

theorem pairwise_startsAfter
    (offset : Nat)
    (cs : List Char) :
    (startsAfter offset cs).Pairwise (· < ·) := by
  induction cs generalizing offset with
  | nil => exact List.Pairwise.nil
  | cons c rest ih =>
      unfold startsAfter
      split
      · apply List.pairwise_cons.mpr
        constructor
        · intro start hMem
          exact lt_of_mem_startsAfter hMem
        · exact ih (offset + 1)
      · exact ih (offset + 1)

/- The line starts of a text are in ascending order. -/
theorem pairwise_starts
    (cs : List Char) :
    (ofChars cs).starts.Pairwise (· < ·) := by
  apply List.pairwise_cons.mpr
  constructor
  · intro start hMem
    exact lt_of_mem_startsAfter hMem
  · exact pairwise_startsAfter 0 cs

/-
  In ascending order, the numbers up to a bound are those in
  front of the first that is above it.
-/
theorem length_takeWhile_of_pairwise
    {starts : List Nat}
    (hAscending : starts.Pairwise (· < ·))
    (bound : Nat) :
    (starts.takeWhile (· ≤ bound)).length =
      starts.countP (· ≤ bound) := by
  induction starts with
  | nil => rfl
  | cons start more ih =>
      rcases List.pairwise_cons.mp hAscending with
        ⟨hLater, hMore⟩
      by_cases hUpTo : start ≤ bound
      · simp [hUpTo, ih hMore]
      · have hNone : more.countP (· ≤ bound) = 0 := by
          apply List.countP_eq_zero.mpr
          intro later hMem
          have hBehind := hLater later hMem
          simp only [decide_eq_true_eq]
          omega
        simp [hUpTo, hNone]

/- The line of an offset counts the line starts up to it. -/
theorem line_eq_countP
    (cs : List Char)
    (offset : Nat) :
    (ofChars cs).line offset =
      (ofChars cs).starts.countP (· ≤ offset) :=
  length_takeWhile_of_pairwise (pairwise_starts cs) offset

end LineTable

end MathScan

------------------------------------------------------------
-- From Places to Offsets
------------------------------------------------------------

namespace MathScan

namespace LineTable

/- The offset that has a line and a column, by the line start. -/
def offset?
    (table : LineTable)
    (line column : Int) : Option Int :=
  (table.starts[(line - 1).toNat]?).map
    fun start : Nat => (start : Int) + (column - 1)

/- Where the line of an offset begins, by the line table. -/
theorem starts_line
    (cs : List Char)
    (offset : Nat) :
    (ofChars cs).starts[(ofChars cs).line offset - 1]? =
      some (lineStart (cs.take offset)) := by
  rcases List.takeWhile_prefix
      (l := (ofChars cs).starts) (· ≤ offset) with
    ⟨later, hSplit⟩
  have hUpTo := startsUpTo_ofChars cs offset
  have hLast :
      ((ofChars cs).startsUpTo offset).getLast? =
        some (lineStart (cs.take offset)) := by
    rw [← getLastD_startsUpTo, hUpTo, List.getLast?_cons,
      List.getLastD_cons, List.getLastD_eq_getLast?]
  have hWithin :
      (ofChars cs).line offset - 1 <
        ((ofChars cs).startsUpTo offset).length := by
    rw [line, hUpTo, List.length_cons]
    omega
  rw [← hLast, List.getLast?_eq_getElem?, ← line]
  change _ = ((ofChars cs).starts.takeWhile (· ≤ offset))[_]?
  conv_lhs => rw [← hSplit]
  exact List.getElem?_append_left hWithin

/- The line table leads from a place back to its offset. -/
theorem offset?_line_column
    (cs : List Char)
    (offset : Nat) :
    (ofChars cs).offset? ((ofChars cs).line offset)
        ((ofChars cs).column offset) =
      some (offset : Int) := by
  have hStart := starts_line cs offset
  have hWithin : lineStart (cs.take offset) ≤ offset :=
    (lineStart_le _).trans (List.length_take_le _ _)
  have hIndex :
      (((ofChars cs).line offset : Int) - 1).toNat =
        (ofChars cs).line offset - 1 := by
    omega
  rw [offset?, hIndex, hStart, column_ofChars, Option.map_some]
  congr 1
  omega

/- An offset behind another one has a later place. -/
theorem lex_of_lt
    (cs : List Char)
    {offset later : Nat}
    (hLater : offset < later) :
    (ofChars cs).line offset < (ofChars cs).line later ∨
      (ofChars cs).line offset = (ofChars cs).line later ∧
        (ofChars cs).column offset <
          (ofChars cs).column later := by
  have hSplit :
      cs.take later =
        cs.take offset ++
          (cs.drop offset).take (later - offset) := by
    rw [← List.take_add]
    congr 1
    omega
  generalize (cs.drop offset).take (later - offset) = between
    at hSplit
  have hWithin : lineStart (cs.take offset) ≤ offset :=
    (lineStart_le _).trans (List.length_take_le _ _)
  rw [line_ofChars, line_ofChars, column_ofChars,
    column_ofChars, hSplit, List.count_append,
    lineStart_append]
  by_cases hFeed : '\n' ∈ between
  · have hSome := List.count_pos_iff.mpr hFeed
    left
    omega
  · have hNone := List.count_eq_zero.mpr hFeed
    right
    rw [hNone, if_neg hFeed]
    omega

end LineTable

end MathScan

------------------------------------------------------------
-- Locations of a Scanner
------------------------------------------------------------

namespace MathScan

namespace Scanner

/-
  What a location tells of an offset of a source, within the
  source or past its end:

  Its line is one more than the line feeds before the offset,
  its column counts from behind the last of them. The line
  table is in ascending order, and a search in it for the
  line starts up to the offset finds the same line. The table
  leads from line and column back to the offset. A later
  offset has a later place, and no other offset has the same
  text.
-/
structure Locates
    (s : Scanner)
    (offset : Nat)
    (place : Location) : Prop where
  filename_eq : place.filename = s.filename
  offset_eq : place.offset = offset
  line_eq : place.line = 1 + (s.source.take offset).count '\n'
  column_eq :
    place.column = offset - lineStart (s.source.take offset) + 1
  one_le_line : 1 ≤ place.line
  one_le_column : 1 ≤ place.column
  starts_ascending : s.lines.starts.Pairwise (· < ·)
  line_eq_countP :
    place.line = s.lines.starts.countP (· ≤ offset)
  offset?_eq :
    s.lines.offset? place.line place.column = some place.offset
  lex_of_lt :
    ∀ later, offset < later →
      place.line < (s.place later).line ∨
        place.line = (s.place later).line ∧
          place.column < (s.place later).column
  eq_of_text :
    ∀ other, (s.place other).text = place.text → other = offset

theorem place_locates
    (s : Scanner)
    (offset : Nat) :
    s.Locates offset (s.place offset) := by
  have hPlace := place_eq s offset
  have hWithin :
      lineStart (s.source.take offset) ≤ offset :=
    (lineStart_le _).trans (List.length_take_le _ _)
  have hLex {first later : Nat} (hLater : first < later) :
      (s.place first).line < (s.place later).line ∨
        (s.place first).line = (s.place later).line ∧
          (s.place first).column < (s.place later).column := by
    have hTable := LineTable.lex_of_lt s.source hLater
    rw [← s.lines_eq] at hTable
    simp only [place]
    omega
  refine
    { filename_eq := rfl
      offset_eq := rfl
      line_eq := ?_
      column_eq := ?_
      one_le_line := ?_
      one_le_column := ?_
      starts_ascending := ?_
      line_eq_countP := ?_
      offset?_eq := ?_
      lex_of_lt := ?_
      eq_of_text := ?_ }
  · rw [hPlace]
    push_cast
    omega
  · rw [hPlace]
    push_cast
    omega
  · rw [hPlace]
    push_cast
    omega
  · rw [hPlace]
    push_cast
    omega
  · rw [s.lines_eq]
    exact LineTable.pairwise_starts s.source
  · have hCount := LineTable.line_eq_countP s.source offset
    rw [← s.lines_eq] at hCount
    exact congrArg Nat.cast hCount
  · have hBack := LineTable.offset?_line_column s.source offset
    rw [← s.lines_eq] at hBack
    exact hBack
  · intro later hLater
    exact hLex hLater
  · intro other hText
    rcases Location.text_inj hText with ⟨_, hLine, hColumn⟩
    rcases Nat.lt_trichotomy other offset with
      hBefore | hSame | hBehind
    · have hOrder := hLex hBefore
      omega
    · exact hSame
    · have hOrder := hLex hBehind
      omega

end Scanner

end MathScan
