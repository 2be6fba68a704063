import MathScan.Proofs.Front
import MathScan.Scanner.Drain

/-
  Readings: what a scanner makes of a whole text. A text is
  read as pieces that do not go on, then blanks, and then
  either its end or a string without an end. There is a
  reading of each text, and a drain follows it.

  Key definitions include:
    * `Reading`

  The key statements are:
    * `nonempty_reading`
    * `Scanner.drain_settled`
    * `Scanner.drain_reading`
    * `Scanner.settled_of_tokens_prefix`
    * `tokenize_of_settled`
-/

------------------------------------------------------------
-- Readings
------------------------------------------------------------

namespace MathScan

/-
  A text as it is read: a layout whose tokens do not go on,
  and the content of a string without an end, if the text
  ends in one.
-/
structure Reading
    (mode : NumberMode)
    (cs : List Char) where
  layout : Layout mode
  unclosed : Option (List Char)
  unclosed_quote : ∀ content ∈ unclosed, quote ∉ content
  text_eq :
    cs = layout.text ++ unclosed.elim [] (quote :: ·)
  settled :
    Piece.Settled
      (layout.gap ++ unclosed.elim [] (quote :: ·))
      layout.pieces

/- Every text can be read. -/
theorem nonempty_reading
    (mode : NumberMode)
    (cs : List Char) :
    Nonempty (Reading mode cs) := by
  -- induction on the length, since a piece may be of any length
  induction hLength : cs.length using Nat.strong_induction_on
    generalizing cs with
  | _ length ih =>
      cases front mode cs with
      | @blank _ hGap =>
          exact ⟨⟨⟨[], cs, hGap⟩, none, by simp,
            by simp [Layout.text], trivial⟩⟩
      | @unclosed gap content hGap hContent =>
          exact ⟨⟨⟨[], gap, hGap⟩, some content,
            by simpa using hContent,
            by simp [Layout.text], trivial⟩⟩
      | @piece p after hEnds =>
          have hShorter : after.length < length := by
            have hSome :=
              List.length_pos_iff.mpr p.chars_ne_nil
            rw [List.length_append] at hLength
            omega
          rcases ih after.length hShorter after rfl with ⟨r⟩
          have hText := r.text_eq
          rw [Layout.text, List.append_assoc] at hText
          refine ⟨⟨⟨p :: r.layout.pieces, r.layout.gap,
            r.layout.gap_blank⟩, r.unclosed,
            r.unclosed_quote, ?_, ?_⟩⟩
          · conv_lhs => rw [r.text_eq]
            simp [Layout.text]
          · rw [Piece.Settled, ← hText]
            exact ⟨hEnds, r.settled⟩

end MathScan

------------------------------------------------------------
-- Drains
------------------------------------------------------------

namespace MathScan

namespace Scanner

variable {s u : Scanner}

theorem drain_of_next_none
    (hNext : s.next = (.ok none, u)) :
    s.drain = ⟨[], none, u⟩ := by
  rw [drain]
  split
  · rename_i e hAnswer
    simp [hNext] at hAnswer
  · rw [hNext]
  · rename_i t hAnswer
    simp [hNext] at hAnswer

theorem drain_of_next_error
    {e : ScanError}
    (hNext : s.next = (.error e, u)) :
    s.drain = ⟨[], some e, u⟩ := by
  rw [drain]
  split
  · rename_i d hAnswer
    rw [hNext, Except.error.injEq] at hAnswer
    rw [hNext, hAnswer]
  · rename_i hAnswer
    simp [hNext] at hAnswer
  · rename_i t hAnswer
    simp [hNext] at hAnswer

theorem drain_of_next_token
    {t : Token}
    (hNext : s.next = (.ok (some t), u)) :
    s.drain =
      { u.drain with tokens := t :: u.drain.tokens } := by
  rw [drain]
  split
  · rename_i e hAnswer
    simp [hNext] at hAnswer
  · rename_i hAnswer
    simp [hNext] at hAnswer
  · rename_i v hAnswer
    rw [hNext, Except.ok.injEq, Option.some.injEq] at hAnswer
    simp only [hNext, hAnswer]

/-
  A drain begins with the tokens of the pieces at the cursor,
  if none of them goes on, and then drains what follows them.
-/
theorem drain_settled
    {mode : NumberMode}
    (hMode : s.mode = mode)
    {ps : List (Piece mode)}
    {after : List Char}
    (hRest : s.rest = Piece.text ps ++ after)
    (hSettled : Piece.Settled after ps) :
    s.drain =
      { (s.advance (Piece.text ps).length).drain with
        tokens :=
          Piece.tokens s.place s.position ps ++
            (s.advance (Piece.text ps).length).drain.tokens }
    := by
  induction ps generalizing s with
  | nil => simp [advance_zero, Piece.tokens]
  | cons p ps ih =>
      rw [Piece.text_cons, List.append_assoc] at hRest
      have hNext := next_piece hMode p hRest hSettled.1
      have hAfter :
          (s.advance p.chars.length).rest =
            Piece.text ps ++ after := by
        rw [rest_advance, hRest, List.drop_left]
      have hMore :=
        ih (s := s.advance p.chars.length) hMode hAfter
          hSettled.2
      rw [advance_advance] at hMore
      rw [drain_of_next_token hNext, hMore, Piece.text_cons,
        List.length_append]
      rfl

/- Blanks at the cursor make no difference to a drain. -/
theorem drain_gap
    {gap body : List Char}
    (hRest : s.rest = gap ++ body)
    (hGap : Text.Blank gap) :
    s.drain = (s.advance gap.length).drain := by
  have hNext : s.next = (s.advance gap.length).next := by
    have hTake :
        s.rest.takeWhile Text.isBlank =
          gap ++ body.takeWhile Text.isBlank := by
      rw [hRest, List.takeWhile_append_of_pos hGap]
    rw [next, next, skipBlanks, skipBlanks, hTake,
      rest_advance, hRest, List.drop_left, advance_advance,
      List.length_append]
  cases hAfter : (s.advance gap.length).next with
  | mk answer after =>
      rw [hAfter] at hNext
      cases answer with
      | error e =>
          rw [drain_of_next_error hNext,
            drain_of_next_error hAfter]
      | ok found =>
          cases found with
          | none =>
              rw [drain_of_next_none hNext,
                drain_of_next_none hAfter]
          | some t =>
              rw [drain_of_next_token hNext,
                drain_of_next_token hAfter]

/-
  A drain gives the tokens of a reading, and an error if the
  reading ends in a string without an end. Either way nothing
  is left of the source.
-/
theorem drain_reading
    {mode : NumberMode}
    {cs : List Char}
    (hMode : s.mode = mode)
    (hRest : s.rest = cs)
    (r : Reading mode cs) :
    s.drain =
      { tokens :=
          Piece.tokens s.place s.position r.layout.pieces
        failure :=
          r.unclosed.map fun _ =>
            .unterminatedString
              (s.place (s.position + r.layout.text.length))
        scanner := s.advance cs.length } := by
  subst hRest
  rcases r with
    ⟨⟨ps, gap, hGap⟩, unclosed, hQuote, hText, hSettled⟩
  rw [Layout.text, List.append_assoc] at hText
  have hAfter :
      (s.advance (Piece.text ps).length).rest =
        gap ++ unclosed.elim [] (quote :: ·) := by
    rw [rest_advance, hText, List.drop_left]
  have hLength :
      s.rest.length =
        (Piece.text ps).length +
          (gap ++ unclosed.elim [] (quote :: ·)).length := by
    rw [hText, List.length_append]
  have hEnd :
      (s.advance (Piece.text ps).length).advance
          (s.advance (Piece.text ps).length).rest.length =
        s.advance s.rest.length := by
    rw [advance_advance, hAfter, hLength]
  rw [drain_settled hMode hText hSettled]
  cases unclosed with
  | none =>
      have hBlank :
          Text.Blank
            (s.advance (Piece.text ps).length).rest := by
        rw [hAfter, Option.elim_none, List.append_nil]
        exact hGap
      have hNext := next_blank hBlank
      rw [hEnd] at hNext
      rw [drain_of_next_none hNext, List.append_nil]
      rfl
  | some content =>
      have hNext :=
        next_unclosed hAfter hGap (hQuote content rfl)
      rw [hEnd] at hNext
      rw [drain_of_next_error hNext, List.append_nil,
        position_advance, Nat.add_assoc, Layout.text,
        List.length_append]
      rfl

/- A drain leaves nothing behind. -/
theorem scanner_drain
    (s : Scanner) :
    s.drain.scanner = s.advance s.rest.length := by
  rcases nonempty_reading s.mode s.rest with ⟨r⟩
  rw [drain_reading rfl rfl r]

theorem location_of_mem_drain
    {t : Token}
    (hMem : t ∈ s.drain.tokens) :
    ∃ offset, t.location = some (s.place offset) := by
  rcases nonempty_reading s.mode s.rest with ⟨r⟩
  rw [drain_reading rfl rfl r] at hMem
  exact Piece.location_of_mem_tokens hMem

/-
  A drain only fails at a string without an end, which is at a
  place in the source.
-/
theorem place_of_failure_drain
    {e : ScanError}
    (hFailure : s.drain.failure = some e) :
    ∃ offset, e = .unterminatedString (s.place offset) := by
  rcases nonempty_reading s.mode s.rest with ⟨r⟩
  rw [drain_reading rfl rfl r, Option.map_eq_some_iff]
    at hFailure
  rcases hFailure with ⟨content, _, rfl⟩
  exact ⟨_, rfl⟩

/- A drain only fails at a string without an end. -/
theorem failure_drain
    {e : ScanError}
    (hFailure : s.drain.failure = some e) :
    ∃ place, e = .unterminatedString place := by
  rcases place_of_failure_drain hFailure with ⟨offset, rfl⟩
  exact ⟨_, rfl⟩

/- All tokens are read by a drain, which may fail. -/
theorem tokenize_eq
    (s : Scanner) :
    s.tokenize =
      (match s.drain.failure with
        | some e => .error e
        | none => .ok s.drain.tokens,
      s.advance s.rest.length) := by
  rw [tokenize, scanner_drain]
  cases s.drain.failure with
  | none => rfl
  | some e => rfl

/- What the drain of a whole source gives. -/
theorem drain_ofChars
    {mode : NumberMode}
    {source : List Char}
    (filename : String)
    (r : Reading mode source) :
    (ofChars source filename mode).drain =
      { tokens :=
          r.layout.tokens (ofChars source filename mode).place
        failure :=
          r.unclosed.map fun _ =>
            .unterminatedString
              ((ofChars source filename mode).place
                r.layout.text.length)
        scanner :=
          (ofChars source filename mode).advance
            source.length } := by
  have hDrain :=
    drain_reading (s := ofChars source filename mode) rfl rfl r
  have hStart (n : Nat) :
      (ofChars source filename mode).position + n = n :=
    Nat.zero_add n
  rw [hStart] at hDrain
  exact hDrain

/- A text without an error has a reading that does not end in
  a string without an end. -/
theorem exists_settled_layout
    {source : List Char}
    {filename : String}
    {mode : NumberMode}
    (hRead : (ofChars source filename mode).drain.failure = none) :
    ∃ layout : Layout mode,
      source = layout.text ∧
        Piece.Settled layout.gap layout.pieces ∧
        (ofChars source filename mode).drain.tokens =
          layout.tokens (ofChars source filename mode).place := by
  rcases nonempty_reading mode source with ⟨r⟩
  have hDrain := drain_ofChars filename r
  rw [hDrain] at hRead
  have hClosed : r.unclosed = none :=
    Option.map_eq_none_iff.mp hRead
  have hText := r.text_eq
  have hSettled := r.settled
  rw [hClosed, Option.elim_none, List.append_nil]
    at hText hSettled
  exact ⟨r.layout, hText, hSettled,
    congrArg Drain.tokens hDrain⟩

/- The tokens of a text are where they are without the text
  behind it. -/
theorem layout_tokens_append
    {mode : NumberMode}
    (filename : String)
    (layout : Layout mode)
    (more : List Char) :
    layout.tokens
        (ofChars (layout.text ++ more) filename mode).place =
      layout.tokens (ofChars layout.text filename mode).place := by
  apply Piece.tokens_congr
  intro n hWithin
  apply place_append_left
    (s := ofChars (layout.text ++ more) filename mode)
    (u := ofChars layout.text filename mode) rfl rfl
  rw [Nat.zero_add] at hWithin
  have hLength :
      layout.text.length =
        (Piece.text layout.pieces).length +
          layout.gap.length :=
    List.length_append
  change n ≤ layout.text.length
  omega

theorem wellFormed_of_mem_drain
    {t : Token}
    (hMem : t ∈ s.drain.tokens) :
    t.WellFormed s.mode := by
  rcases nonempty_reading s.mode s.rest with ⟨r⟩
  rw [drain_reading rfl rfl r] at hMem
  exact Piece.wellFormed_of_mem_tokens hMem

/-
  Pieces that a drain begins with do not go on: where one
  did, the drain would give a longer token in its place.
-/
theorem settled_of_tokens_prefix
    {mode : NumberMode}
    (hMode : s.mode = mode)
    {ps : List (Piece mode)}
    {after : List Char}
    (hRest : s.rest = Piece.text ps ++ after)
    (hPrefix :
      Piece.tokens s.place s.position ps <+:
        s.drain.tokens) :
    Piece.Settled after ps := by
  induction ps generalizing s with
  | nil => trivial
  | cons p ps ih =>
      have hFront := front mode s.rest
      generalize hWhole : s.rest = cs at hFront
      cases hFront with
      | blank hGap =>
          rw [drain_of_next_none (next_blank (hWhole ▸ hGap))]
            at hPrefix
          simp [Piece.tokens] at hPrefix
      | unclosed hGap hContent =>
          rw [drain_of_next_error
            (next_unclosed hWhole hGap hContent)] at hPrefix
          simp [Piece.tokens] at hPrefix
      | @piece q rest hEnds =>
          rw [drain_of_next_token
            (next_piece hMode q hWhole hEnds), Piece.tokens,
            List.cons_prefix_cons] at hPrefix
          rcases hPrefix with ⟨hToken, hMore⟩
          have hKind : p.token.kind = q.token.kind := by
            simpa using congrArg Token.kind hToken
          have hLexeme : p.token.lexeme = q.token.lexeme := by
            simpa using congrArg Token.lexeme hToken
          have hPlace :
              s.place (s.position + p.gap.length) =
                s.place (s.position + q.gap.length) :=
            Option.some.inj (congrArg Token.location hToken)
          have hOffset :
              ((s.position + p.gap.length : Nat) : Int) =
                (s.position + q.gap.length : Nat) :=
            congrArg Location.offset hPlace
          have hLength : p.chars.length = q.chars.length := by
            rw [Piece.length_chars, Piece.length_chars, hLexeme]
            omega
          rw [Piece.text_cons, List.append_assoc] at hRest
          have hAfter : Piece.text ps ++ after = rest :=
            List.append_inj_right (hRest.symm.trans hWhole)
              hLength
          constructor
          · intro c hHead
            rw [hKind]
            exact hEnds c (hAfter ▸ hHead)
          · apply ih (s := s.advance p.chars.length) hMode
            · rw [rest_advance, hRest, List.drop_left]
            · rw [← hLength] at hMore
              exact hMore

end Scanner

end MathScan

------------------------------------------------------------
-- Reading All Tokens
------------------------------------------------------------

namespace MathScan

variable {source filename : String} {mode : NumberMode}

/- The tokens of a text are those of a drain without an error. -/
theorem tokenize_eq_ok_iff
    {ts : List Token} :
    tokenize source filename mode = .ok ts ↔
      (Scanner.ofText source filename mode).drain.failure =
          none ∧
        (Scanner.ofText source filename mode).drain.tokens =
          ts := by
  unfold tokenize Scanner.tokenize
  generalize (Scanner.ofText source filename mode).drain = all
  cases hFailure : all.failure with
  | none => simp [hFailure]
  | some e => simp [hFailure]

/- The tokens of a text are refused for the error of a drain. -/
theorem tokenize_eq_error_iff
    {e : ScanError} :
    tokenize source filename mode = .error e ↔
      (Scanner.ofText source filename mode).drain.failure =
        some e := by
  unfold tokenize Scanner.tokenize
  generalize (Scanner.ofText source filename mode).drain = all
  cases hFailure : all.failure with
  | none => simp [hFailure]
  | some d => simp [hFailure]

/- Settled pieces are read as their own tokens. -/
theorem tokenize_of_settled
    (filename : String)
    (layout : Layout mode)
    (hSettled : Piece.Settled layout.gap layout.pieces) :
    tokenize (String.ofList layout.text) filename mode =
      .ok (layout.tokens
        (Scanner.ofChars layout.text filename mode).place) := by
  let r : Reading mode layout.text :=
    { layout := layout
      unclosed := none
      unclosed_quote := by simp
      text_eq := by simp
      settled := by simpa using hSettled }
  have hDrain := Scanner.drain_ofChars filename r
  rw [tokenize_eq_ok_iff, Scanner.ofText, String.toList_ofList,
    hDrain]
  exact ⟨rfl, rfl⟩

end MathScan
