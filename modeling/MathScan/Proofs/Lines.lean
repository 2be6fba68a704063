import MathScan.Scanner.Basic
import Mathlib.Data.List.TakeWhile

/-
  The line table counts line feeds. A location is told by the
  text before its offset alone, so that a text put in front of
  a source only moves the locations in it, and one put behind
  it changes none.

  Key definitions include:
    * `lineStart`
    * `Location.after`

  The key statements are:
    * `LineTable.line_ofChars`
    * `LineTable.column_ofChars`
    * `Scanner.place_append_left`
    * `Scanner.place_append_right`
-/

------------------------------------------------------------
-- Parting a Text at a Mark
------------------------------------------------------------

namespace MathScan

/- A text is parted at its last mark in one way only. -/
theorem append_mark_inj
    {mark : Char}
    {a b c d : List Char}
    (hFirst : mark ∉ b)
    (hSecond : mark ∉ d)
    (hEq : a ++ mark :: b = c ++ mark :: d) :
    a = c ∧ b = d := by
  rcases List.append_eq_append_iff.mp hEq with
    ⟨e, hFront, hBack⟩ | ⟨e, hFront, hBack⟩
  · cases e with
    | nil =>
        rw [List.append_nil] at hFront
        exact ⟨hFront.symm, (List.cons.inj hBack).2⟩
    | cons x e =>
        -- the mark in front of `d` would stand in `b`
        have hInside := (List.cons.inj hBack).2
        rw [hInside] at hFirst
        exact absurd List.mem_append_cons_self hFirst
  · cases e with
    | nil =>
        rw [List.append_nil] at hFront
        exact ⟨hFront, (List.cons.inj hBack).2.symm⟩
    | cons x e =>
        have hInside := (List.cons.inj hBack).2
        rw [hInside] at hSecond
        exact absurd List.mem_append_cons_self hSecond

/- A text is parted at its first mark in one way only. -/
theorem append_firstMark_inj
    {mark : Char}
    {a b c d : List Char}
    (hFirst : mark ∉ a)
    (hSecond : mark ∉ c)
    (hEq : a ++ mark :: b = c ++ mark :: d) :
    a = c ∧ b = d := by
  have hReverse :
      b.reverse ++ mark :: a.reverse =
        d.reverse ++ mark :: c.reverse := by
    simpa using congrArg List.reverse hEq
  rcases append_mark_inj
      (fun hMem => hFirst (List.mem_reverse.mp hMem))
      (fun hMem => hSecond (List.mem_reverse.mp hMem))
      hReverse with
    ⟨hBehind, hFront⟩
  exact ⟨List.reverse_inj.mp hFront,
    List.reverse_inj.mp hBehind⟩

end MathScan

------------------------------------------------------------
-- The Start of the Last Line
------------------------------------------------------------

namespace MathScan

/-
  Where the last line of a text begins: behind its last line
  feed, or at its start if there is none.
-/
def lineStart
    (cs : List Char) : Nat :=
  (cs.reverse.dropWhile (· != '\n')).length

theorem lineStart_le
    (cs : List Char) :
    lineStart cs ≤ cs.length := by
  simpa [lineStart] using
    List.length_dropWhile_le (· != '\n') cs.reverse

/- Without a line feed there is only one line. -/
theorem lineStart_of_notMem
    {cs : List Char}
    (hFeed : '\n' ∉ cs) :
    lineStart cs = 0 := by
  have hNil : cs.reverse.dropWhile (· != '\n') = [] := by
    apply List.dropWhile_eq_nil_iff.mpr
    intro c hMem
    have hNe : c ≠ '\n' := by
      rintro rfl
      exact hFeed (List.mem_reverse.mp hMem)
    simpa using hNe
  rw [lineStart, hNil, List.length_nil]

/-
  The last line of two texts in a row is that of the second,
  unless the second has no line feed and goes on with the
  last line of the first.
-/
theorem lineStart_append
    (a b : List Char) :
    lineStart (a ++ b) =
      if '\n' ∈ b then a.length + lineStart b
      else lineStart a := by
  rw [lineStart, List.reverse_append, List.dropWhile_append]
  by_cases hFeed : '\n' ∈ b
  · have hSome :
        (b.reverse.dropWhile (· != '\n')).isEmpty = false := by
      apply Bool.eq_false_iff.mpr
      intro hEmpty
      have hAll := List.dropWhile_eq_nil_iff.mp
        (List.isEmpty_iff.mp hEmpty) '\n'
        (List.mem_reverse.mpr hFeed)
      simp at hAll
    simp only [hSome, hFeed, if_true, Bool.false_eq_true,
      if_false, List.length_append, List.length_reverse,
      lineStart]
    omega
  · have hNil : b.reverse.dropWhile (· != '\n') = [] := by
      apply List.eq_nil_of_length_eq_zero
      exact lineStart_of_notMem hFeed
    simp only [hNil, List.isEmpty_nil, hFeed, if_true,
      if_false, lineStart]

end MathScan

------------------------------------------------------------
-- The Line Table
------------------------------------------------------------

namespace MathScan

namespace LineTable

/- Every line but the first begins behind its text's start. -/
theorem lt_of_mem_startsAfter
    {offset start : Nat}
    {cs : List Char}
    (hMem : start ∈ startsAfter offset cs) :
    offset < start := by
  induction cs generalizing offset with
  | nil => simp [startsAfter] at hMem
  | cons c rest ih =>
      by_cases hFeed : c = '\n'
      · simp only [startsAfter, hFeed, if_true,
          List.mem_cons] at hMem
        rcases hMem with rfl | hRest
        · omega
        · have hLater := ih hRest
          omega
      · simp only [startsAfter, hFeed, if_false] at hMem
        have hLater := ih hMem
        omega

/-
  The line starts up to some characters further on are those
  of these characters alone.
-/
theorem takeWhile_startsAfter
    (offset width : Nat)
    (cs : List Char) :
    (startsAfter offset cs).takeWhile
        (· ≤ offset + width) =
      startsAfter offset (cs.take width) := by
  induction cs generalizing offset width with
  | nil => simp [startsAfter]
  | cons c rest ih =>
      cases width with
      | zero =>
          cases hStarts : startsAfter offset (c :: rest) with
          | nil => simp [startsAfter]
          | cons start more =>
              have hMem : start ∈ startsAfter offset (c :: rest) := by
                simp [hStarts]
              have hBehind := lt_of_mem_startsAfter hMem
              simp [startsAfter, hBehind]
      | succ width =>
          have hRest := ih (offset + 1) width
          rw [show offset + 1 + width = offset + (width + 1)
            by omega] at hRest
          by_cases hFeed : c = '\n'
          · have hFirst : offset + 1 ≤ offset + (width + 1) := by
              omega
            simp only [startsAfter, hFeed, if_true,
              List.take_succ_cons, List.takeWhile_cons, hFirst,
              decide_true, hRest]
          · simpa only [startsAfter, hFeed, if_false,
              List.take_succ_cons] using hRest

theorem length_startsAfter
    (offset : Nat)
    (cs : List Char) :
    (startsAfter offset cs).length = cs.count '\n' := by
  induction cs generalizing offset with
  | nil => rfl
  | cons c rest ih =>
      by_cases hFeed : c = '\n'
      · simp [startsAfter, hFeed, ih]
      · simp [startsAfter, hFeed, ih]

/- The last of the line starts is that of the last line. -/
theorem getLastD_startsAfter
    (offset first : Nat)
    (cs : List Char) :
    (startsAfter offset cs).getLastD first =
      if '\n' ∈ cs then offset + lineStart cs else first := by
  induction cs generalizing offset first with
  | nil => simp [startsAfter]
  | cons c rest ih =>
      have hSplit := lineStart_append [c] rest
      rw [List.singleton_append] at hSplit
      by_cases hFeed : c = '\n'
      · have hAlone : lineStart ['\n'] = 1 := by
          decide
        subst hFeed
        simp only [startsAfter, if_true, List.getLastD_cons,
          List.mem_cons, true_or, ih, hSplit]
        split
        · simp only [List.length_singleton]
          omega
        · rw [hAlone]
      · have hNotFirst : '\n' ≠ c := by
          intro hHead
          exact hFeed hHead.symm
        simp only [startsAfter, hFeed, hNotFirst, if_false,
          false_or, ih, List.mem_cons, hSplit,
          List.length_singleton]
        by_cases hRest : '\n' ∈ rest
        · simp only [hRest, if_true]
          omega
        · simp only [hRest, if_false]

/- The line starts up to an offset, from the text before it. -/
theorem startsUpTo_ofChars
    (cs : List Char)
    (offset : Nat) :
    (ofChars cs).startsUpTo offset =
      0 :: startsAfter 0 (cs.take offset) := by
  have hRest := takeWhile_startsAfter 0 offset cs
  rw [Nat.zero_add] at hRest
  simp only [startsUpTo, ofChars]
  rw [List.takeWhile_cons_of_pos (by simp), hRest]

/- The line of an offset is one more than the lines ended. -/
theorem line_ofChars
    (cs : List Char)
    (offset : Nat) :
    (ofChars cs).line offset =
      (cs.take offset).count '\n' + 1 := by
  rw [line, startsUpTo_ofChars, List.length_cons,
    length_startsAfter]

/- The last line start up to an offset, from the text before it. -/
theorem getLastD_startsUpTo
    (cs : List Char)
    (offset : Nat) :
    ((ofChars cs).startsUpTo offset).getLastD 0 =
      lineStart (cs.take offset) := by
  rw [startsUpTo_ofChars, List.getLastD_cons,
    getLastD_startsAfter]
  split
  · rw [Nat.zero_add]
  · rename_i hFeed
    rw [lineStart_of_notMem hFeed]

/- The column of an offset counts from the start of its line. -/
theorem column_ofChars
    (cs : List Char)
    (offset : Nat) :
    (ofChars cs).column offset =
      offset - lineStart (cs.take offset) + 1 := by
  rw [column, getLastD_startsUpTo]

end LineTable

end MathScan

------------------------------------------------------------
-- Locations
------------------------------------------------------------

namespace MathScan

/-
  A location of a text, where the text stands behind another.
  Only the first line goes on with the last line before it.
-/
def Location.after
    (before : List Char)
    (place : Location) : Location :=
  { place with
    line := place.line + before.count '\n'
    column :=
      if place.line = 1 then
        place.column + (before.length - lineStart before : Nat)
      else
        place.column
    offset := place.offset + before.length }

namespace Scanner

/- The location of an offset, from the text before it. -/
theorem place_eq
    (s : Scanner)
    (offset : Nat) :
    s.place offset =
      { filename := s.filename
        line := ((s.source.take offset).count '\n' + 1 : Nat)
        column :=
          (offset - lineStart (s.source.take offset) + 1 : Nat)
        offset := offset } := by
  rw [place, s.lines_eq, LineTable.line_ofChars,
    LineTable.column_ofChars]

@[simp] theorem offset_place
    (s : Scanner)
    (offset : Nat) :
    (s.place offset).offset = offset := rfl

/- A text behind a source changes no location in it. -/
theorem place_append_left
    {s u : Scanner}
    {b : List Char}
    (hName : s.filename = u.filename)
    (hSource : s.source = u.source ++ b)
    {offset : Nat}
    (hOffset : offset ≤ u.source.length) :
    s.place offset = u.place offset := by
  have hTake :
      s.source.take offset = u.source.take offset := by
    rw [hSource, List.take_append_of_le_length hOffset]
  rw [place_eq, place_eq, hName, hTake]

/- A text in front of a source moves all locations in it. -/
theorem place_append_right
    {s u : Scanner}
    {a : List Char}
    (hName : s.filename = u.filename)
    (hSource : s.source = a ++ u.source)
    (offset : Nat) :
    s.place (a.length + offset) =
      (u.place offset).after a := by
  have hTake :
      s.source.take (a.length + offset) =
        a ++ u.source.take offset := by
    rw [hSource, List.take_length_add_append]
  have hStart := lineStart_le a
  have hFirst :
      '\n' ∈ u.source.take offset ↔
        (u.source.take offset).count '\n' ≠ 0 :=
    List.count_pos_iff.symm.trans Nat.pos_iff_ne_zero
  have hWithin := lineStart_le (u.source.take offset)
  rw [place_eq, place_eq, hName, hTake, List.count_append,
    lineStart_append]
  simp only [Location.after, Location.mk.injEq, true_and]
  refine ⟨by omega, ?_, by omega⟩
  by_cases hFeed : '\n' ∈ u.source.take offset
  · have hLater := hFirst.mp hFeed
    rw [if_pos hFeed, if_neg (by omega)]
    omega
  · have hFirstLine :
        (u.source.take offset).count '\n' = 0 := by
      by_contra hNot
      exact hFeed (hFirst.mpr hNot)
    rw [if_neg hFeed, if_pos (by omega),
      lineStart_of_notMem hFeed]
    omega

end Scanner

end MathScan
