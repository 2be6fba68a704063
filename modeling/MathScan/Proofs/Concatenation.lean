import MathScan.Proofs.Suffix

/-
  Texts in a row. Their tokens are those of the first and then
  those of the second, moved behind the first, unless the last
  token of the first text goes on with the second text.

  The key statement is `Scanner.drain_append_iff`.
-/

namespace MathScan

namespace Scanner

/-
  Where a layout does not go on with the text behind it, all
  its tokens are read, and then what follows the layout.
-/
theorem drain_settled_layout
    {mode : NumberMode}
    (filename : String)
    (layout : Layout mode)
    (more : List Char)
    (hSettled :
      Piece.Settled (layout.gap ++ more) layout.pieces) :
    (ofChars (layout.text ++ more) filename mode).drain =
      { ((ofChars (layout.text ++ more) filename mode).advance
          layout.text.length).drain with
        tokens :=
          layout.tokens
              (ofChars (layout.text ++ more) filename mode).place ++
            ((ofChars (layout.text ++ more) filename mode).advance
              layout.text.length).drain.tokens } := by
  generalize hScanner :
    ofChars (layout.text ++ more) filename mode = s
  have hMode : s.mode = mode := by
    rw [← hScanner]
    rfl
  have hRest :
      s.rest = Piece.text layout.pieces ++ (layout.gap ++ more) := by
    rw [← hScanner]
    exact List.append_assoc _ _ _
  have hStart : s.position = 0 := by
    rw [← hScanner]
    rfl
  have hGap :
      (s.advance (Piece.text layout.pieces).length).rest =
        layout.gap ++ more := by
    rw [rest_advance, hRest, List.drop_left]
  have hLength :
      (s.advance (Piece.text layout.pieces).length).advance
          layout.gap.length =
        s.advance layout.text.length := by
    rw [advance_advance, Layout.text, List.length_append]
  rw [drain_settled hMode hRest hSettled,
    drain_gap hGap layout.gap_blank, hLength, hStart,
    Layout.tokens]

/-
  A settled layout stays settled before another text, unless
  its last token is a name or a number that goes on with the
  first character of that text.
-/
theorem settled_boundary_iff
    {mode : NumberMode}
    (filename : String)
    (layout : Layout mode)
    {more : List Char}
    (hSettled : Piece.Settled layout.gap layout.pieces) :
    Piece.Settled (layout.gap ++ more) layout.pieces ↔
      ¬ ∃ t c,
        (layout.tokens
          (ofChars layout.text filename mode).place).getLast? =
            some t ∧
        more.head? = some c ∧
        t.EndsAt layout.text.length ∧
        ((t.kind = .name ∧ Text.isBlank c = false ∧
            isSymbol c = false ∧ c.isDigit = false) ∨
          (mode = .greedy ∧ t.kind = .number ∧
            c.isDigit = true)) := by
  rw [Layout.settled_append_iff (offset_place _)]
  constructor
  · rintro ⟨_, hEnds⟩ ⟨t, c, hLast, hHead, hEnd, hCase⟩
    have hStops := hEnds t hLast hEnd c hHead
    rw [TokenKind.goesOn_iff.mpr hCase] at hStops
    exact Bool.noConfusion hStops
  · intro hNone
    refine ⟨hSettled, ?_⟩
    intro t hLast hEnd c hHead
    apply Bool.eq_false_iff.mpr
    intro hGoesOn
    exact hNone ⟨t, c, hLast, hHead, hEnd,
      TokenKind.goesOn_iff.mp hGoesOn⟩

/-
  The drain of two texts in a row is the drain of the first
  and then that of the second, behind the first, if and only
  if the first does not end in a token that goes on: a name
  before a character that is no blank, symbol or digit, or a
  number before a digit where numbers are read whole.
-/
theorem drain_append_iff
    (a b : List Char)
    (filename : String)
    (mode : NumberMode)
    (hRead : (ofChars a filename mode).drain.failure = none) :
    let first := (ofChars a filename mode).drain
    let second := (ofChars b filename mode).drain
    let both := (ofChars (a ++ b) filename mode).drain
    (both.tokens =
        first.tokens ++ second.tokens.map (Token.after a) ∧
      both.failure = second.failure.map (ScanError.after a) ∧
      both.scanner.position =
        a.length + second.scanner.position) ↔
    ¬ ∃ t c,
        first.tokens.getLast? = some t ∧
        b.head? = some c ∧
        t.EndsAt a.length ∧
        ((t.kind = .name ∧ Text.isBlank c = false ∧
            isSymbol c = false ∧ c.isDigit = false) ∨
          (mode = .greedy ∧ t.kind = .number ∧
            c.isDigit = true)) := by
  intro first second both
  rcases exists_settled_layout hRead with
    ⟨layout, rfl, hSettled, hTokens⟩
  have hPlaces := layout_tokens_append filename layout b
  rw [hTokens, ← settled_boundary_iff filename layout hSettled]
  constructor
  · rintro ⟨hBoth, _, _⟩
    apply settled_of_tokens_prefix
      (s := ofChars (layout.text ++ b) filename mode) rfl
    · exact List.append_assoc _ _ _
    · change layout.tokens _ <+: both.tokens
      rw [hPlaces, hBoth]
      exact List.prefix_append _ _
  · intro hStops
    have hBoth :=
      drain_settled_layout filename layout b hStops
    rcases drain_after
        (s := (ofChars (layout.text ++ b) filename mode).advance
          layout.text.length)
        (u := ofChars b filename mode) rfl rfl rfl
        (Nat.add_comm _ _) with
      ⟨hMore, hFailure, hPosition⟩
    change both = _ at hBoth
    rw [hBoth]
    refine ⟨?_, hFailure, hPosition⟩
    rw [hMore, hPlaces]

/-
  A number may stand before a symbol and a string that has no
  end: all is read as it is on its own.
-/
theorem drain_append_number_symbol :
    (ofChars ['x', ' ', '1'] "p" .greedy).drain.failure =
        none ∧
      let first := (ofChars ['x', ' ', '1'] "p" .greedy).drain
      let second := (ofChars [';', '\x22'] "p" .greedy).drain
      let both :=
        (ofChars ['x', ' ', '1', ';', '\x22'] "p" .greedy).drain
      both.tokens =
          first.tokens ++
            second.tokens.map (Token.after ['x', ' ', '1']) ∧
        both.failure =
          second.failure.map
            (ScanError.after ['x', ' ', '1']) ∧
        both.scanner.position = 3 + second.scanner.position := by
  have hRead :
      (ofChars ['x', ' ', '1'] "p" .greedy).drain.failure =
        none := by
    decide +kernel
  refine ⟨hRead, ?_⟩
  apply (drain_append_iff ['x', ' ', '1'] [';', '\x22'] "p"
    .greedy hRead).mpr
  rintro ⟨t, c, _, hHead, _, hName | hNumber⟩
  · cases hHead
    exact absurd hName.2.2.1 (by decide)
  · cases hHead
    exact absurd hNumber.2.2 (by decide)

end Scanner

end MathScan
