import MathScan.Proofs.Reading

/-
  What is read depends on the rest of the source alone. Two
  scanners of one mode with the same characters before them
  give the same tokens and the same error, and the places of
  these differ by the text in front of one of them.

  Key definitions include:
    * `ScanError.after`

  The key statement is `Scanner.drain_after`.
-/

namespace MathScan

/- An error of a text, where the text stands behind another. -/
def ScanError.after
    (before : List Char) : ScanError → ScanError
  | malformedString found place =>
    malformedString found (place.after before)
  | unterminatedString place =>
    unterminatedString (place.after before)
  | readPastEnd offset length place =>
    readPastEnd (offset + before.length)
      (length + before.length) (place.after before)
  | reported message place code help suggestions =>
    reported message (place.after before) code help suggestions

namespace Scanner

/-
  A drain of a source behind another text is the drain of the
  source alone, moved behind that text.
-/
theorem drain_after
    {s u : Scanner}
    {before : List Char}
    (hName : s.filename = u.filename)
    (hMode : s.mode = u.mode)
    (hSource : s.source = before ++ u.source)
    (hPosition : s.position = before.length + u.position) :
    s.drain.tokens =
        u.drain.tokens.map (Token.after before) ∧
      s.drain.failure =
        u.drain.failure.map (ScanError.after before) ∧
      s.drain.scanner.position =
        before.length + u.drain.scanner.position := by
  have hRest : s.rest = u.rest := by
    rw [s.rest_eq, u.rest_eq, hSource, hPosition,
      List.drop_length_add_append]
  have hMoved (n : Nat) :
      s.place (before.length + n) = (u.place n).after before :=
    place_append_right hName hSource n
  rcases nonempty_reading u.mode u.rest with ⟨r⟩
  rw [drain_reading hMode hRest r, drain_reading rfl rfl r,
    hPosition]
  refine ⟨?_, ?_, ?_⟩
  · exact Piece.tokens_after hMoved u.position r.layout.pieces
  · cases r.unclosed with
    | none => rfl
    | some content =>
        simp only [Option.map_some, ScanError.after]
        rw [Nat.add_assoc, hMoved]
  · simp only [position_advance]
    omega

end Scanner

end MathScan
