import MathScan.Proofs.Layout

/-
  The front of a text, and what a scanner reads there. A text
  begins with a piece that does not go on, or with a string
  that has no end, or it has nothing but blanks; the next
  token follows from this and the mode alone.

  Key definitions include:
    * `Front`
    * `Scanner.Outcome`

  The key statements are:
    * `front`
    * `Scanner.next_piece`
    * `Scanner.next_blank`
    * `Scanner.next_unclosed`
    * `Scanner.next_outcome`
-/

------------------------------------------------------------
-- The Front of a Text
------------------------------------------------------------

namespace MathScan

/-
  What stands at the front of a text: nothing but blanks, a
  piece that does not go on, or blanks and then a string that
  has no end.
-/
inductive Front
    (mode : NumberMode) : List Char → Prop where
  | blank
      {gap : List Char}
      (hGap : Text.Blank gap) :
      Front mode gap
  | piece
      (p : Piece mode)
      {after : List Char}
      (hEnds : p.token.EndsBefore mode after) :
      Front mode (p.chars ++ after)
  | unclosed
      {gap content : List Char}
      (hGap : Text.Blank gap)
      (hContent : quote ∉ content) :
      Front mode (gap ++ quote :: content)

/- The head of what is left by a scan is not scanned for. -/
theorem head?_dropWhile_eq_false
    {p : Char → Bool}
    {cs : List Char}
    {c : Char}
    (hHead : c ∈ (cs.dropWhile p).head?) :
    p c = false := by
  have hNot := List.head?_dropWhile_not p cs
  rw [Option.mem_def.mp hHead] at hNot
  simpa using hNot

/- A scan for the next quote passes over other characters. -/
theorem bne_quote_of_notMem
    {content : List Char}
    (hContent : quote ∉ content) :
    ∀ c ∈ content, (c != quote) = true := by
  intro c hMem
  have hNe : c ≠ quote := by
    rintro rfl
    exact hContent hMem
  simpa using hNe

/- A token begins at each character that is no blank. -/
theorem exists_token
    (mode : NumberMode)
    {c : Char}
    (hBlank : Text.isBlank c = false)
    (hQuote : c ≠ quote)
    (cs : List Char) :
    ∃ (t : Token) (after : List Char),
      t.WellFormed mode ∧ t.EndsBefore mode after ∧
        c :: cs = t.chars ++ after := by
  have hMore :
      ∀ d ∈ cs.takeWhile ((TokenKind.ofFirst c).goesOn mode),
        (TokenKind.ofFirst c).goesOn mode d = true :=
    fun d hMem => List.mem_takeWhile_imp hMem
  rcases Token.exists_wellFormed hBlank hQuote hMore with
    ⟨t, hToken, hKind, hChars⟩
  refine ⟨t,
    cs.dropWhile ((TokenKind.ofFirst c).goesOn mode),
    hToken, ?_, ?_⟩
  · intro d hHead
    rw [hKind]
    exact head?_dropWhile_eq_false hHead
  · rw [hChars, List.cons_append,
      List.takeWhile_append_dropWhile]

/- Every text has a front. -/
theorem front
    (mode : NumberMode)
    (cs : List Char) :
    Front mode cs := by
  have hGap : Text.Blank (cs.takeWhile Text.isBlank) :=
    fun c hMem => List.mem_takeWhile_imp hMem
  have hSplit :
      cs.takeWhile Text.isBlank ++
        cs.dropWhile Text.isBlank = cs :=
    List.takeWhile_append_dropWhile
  cases hBody : cs.dropWhile Text.isBlank with
  | nil =>
      rw [hBody, List.append_nil] at hSplit
      rw [← hSplit]
      exact .blank hGap
  | cons c more =>
      have hHead : c ∈ (cs.dropWhile Text.isBlank).head? := by
        rw [hBody]
        rfl
      have hBlank := head?_dropWhile_eq_false hHead
      rw [← hSplit, hBody]
      by_cases hQuote : c = quote
      · subst hQuote
        by_cases hClosed : quote ∈ more
        · rcases List.eq_append_cons_of_mem hClosed with
            ⟨content, after, rfl, hContent⟩
          have hEnds :
              (Token.ofString (String.ofList content)
                none).EndsBefore mode after :=
            fun _ _ => rfl
          have hFront := Front.piece
            ⟨_, _, hGap, .string hContent⟩ hEnds
          simpa [Piece.chars] using hFront
        · exact .unclosed hGap hClosed
      · rcases exists_token mode hBlank hQuote more with
          ⟨t, after, hToken, hEnds, hChars⟩
        have hFront :=
          Front.piece ⟨_, t, hGap, hToken⟩ hEnds
        simpa [Piece.chars, hChars] using hFront

end MathScan

------------------------------------------------------------
-- Steps of a Scanner
------------------------------------------------------------

namespace MathScan

namespace Scanner

variable {s : Scanner}

@[simp] theorem rest_advance
    (s : Scanner)
    (n : Nat) :
    (s.advance n).rest = s.rest.drop n := rfl

@[simp] theorem position_advance
    (s : Scanner)
    (n : Nat) :
    (s.advance n).position = s.position + n := rfl

theorem advance_advance
    (s : Scanner)
    (m n : Nat) :
    (s.advance m).advance n = s.advance (m + n) := by
  simp [advance, Nat.add_assoc]

theorem advance_zero
    (s : Scanner) :
    s.advance 0 = s := by
  simp [advance]

/- Blanks are skipped up to a character that is none. -/
theorem skipBlanks_eq
    {gap body : List Char}
    (hRest : s.rest = gap ++ body)
    (hGap : Text.Blank gap)
    (hBody : ∀ c ∈ body.head?, Text.isBlank c = false) :
    s.skipBlanks = s.advance gap.length := by
  have hNone : body.takeWhile Text.isBlank = [] := by
    cases body with
    | nil => rfl
    | cons c rest =>
        have hBlank := hBody c rfl
        exact List.takeWhile_cons_of_neg (by simp [hBlank])
  rw [skipBlanks, hRest, List.takeWhile_append_of_pos hGap,
    hNone, List.append_nil]

theorem readToken_bare
    {mode : NumberMode}
    {t : Token}
    {after : List Char}
    (hMode : s.mode = mode)
    (hRest : s.rest = t.chars ++ after)
    (hToken : t.WellFormed mode)
    (hKind : t.kind ≠ .string)
    (hEnds : t.EndsBefore mode after) :
    s.readToken =
      (.ok (some (t.placed s.here)),
        s.advance t.chars.length) := by
  rcases hToken.exists_cons with ⟨c, more, hChars, _, hFirst⟩
  have hQuote : c ≠ quote := by
    rintro rfl
    exact hKind hFirst
  have hTail := hToken.goesOn_of_mem_tail hKind
  rw [hChars, List.tail_cons] at hTail
  have hNone : after.takeWhile (t.kind.goesOn mode) = [] := by
    cases after with
    | nil => rfl
    | cons d rest =>
        have hStop := hEnds d rfl
        exact List.takeWhile_cons_of_neg (by simp [hStop])
  have hLexeme :
      frontLexeme s.mode c (detachTerminator
          ((more ++ after).takeWhile continuesRun)) =
        (t.kind, t.chars) := by
    rw [frontLexeme_run s.mode hQuote, ← hFirst, hMode,
      List.takeWhile_append_of_pos hTail, hNone,
      List.append_nil, hChars]
  rw [hChars, List.cons_append] at hRest
  simp only [readToken, hRest, hQuote, if_false, readBare,
    hLexeme, hToken.bareToken_eq_placed hKind]

theorem readToken_string
    {mode : NumberMode}
    {t : Token}
    {after : List Char}
    (hRest : s.rest = t.chars ++ after)
    (hToken : t.WellFormed mode)
    (hKind : t.kind = .string) :
    s.readToken =
      (.ok (some (t.placed s.here)),
        s.advance t.chars.length) := by
  cases hToken with
  | symbol hSymbol => cases hKind
  | number hNonempty hDigits hWidth hValue => cases hKind
  | name hNonempty hBlank hSymbol hDigit hQuote => cases hKind
  | @string content place hContent =>
      have hOther := bne_quote_of_notMem hContent
      rw [Token.chars_ofString, List.cons_append,
        List.append_assoc, List.singleton_append] at hRest
      have hTake :
          (content ++ quote :: after).takeWhile (· != quote) =
            content := by
        rw [List.takeWhile_append_of_pos hOther,
          List.takeWhile_cons_of_neg (by simp),
          List.append_nil]
      have hDrop :
          (content ++ quote :: after).dropWhile (· != quote) =
            quote :: after := by
        rw [List.dropWhile_append_of_pos hOther,
          List.dropWhile_cons_of_neg (by simp)]
      simp only [readToken, hRest, if_true, readString, hTake,
        hDrop, Token.chars_ofString, List.length_cons,
        List.length_append, List.length_nil]
      rfl

/-
  The next token is that of the piece at the cursor, if the
  token does not go on with what follows.
-/
theorem next_piece
    {mode : NumberMode}
    (hMode : s.mode = mode)
    (p : Piece mode)
    {after : List Char}
    (hRest : s.rest = p.chars ++ after)
    (hEnds : p.token.EndsBefore mode after) :
    s.next =
      (.ok (some (p.token.placed
          (s.place (s.position + p.gap.length)))),
        s.advance p.chars.length) := by
  rcases p.token_wellFormed.exists_cons with
    ⟨c, more, hChars, hBlank, _⟩
  rw [Piece.chars, List.append_assoc] at hRest
  have hBody :
      ∀ d ∈ (p.token.chars ++ after).head?,
        Text.isBlank d = false := by
    intro d hHead
    rw [hChars, List.cons_append, List.head?_cons,
      Option.mem_def, Option.some.injEq] at hHead
    rw [← hHead]
    exact hBlank
  have hAtToken :
      (s.advance p.gap.length).rest =
        p.token.chars ++ after := by
    rw [rest_advance, hRest, List.drop_left]
  have hWidth :
      s.advance p.chars.length =
        (s.advance p.gap.length).advance
          p.token.chars.length := by
    rw [advance_advance, Piece.chars, List.length_append]
  rw [next, skipBlanks_eq hRest p.gap_blank hBody, hWidth]
  by_cases hKind : p.token.kind = .string
  · exact readToken_string hAtToken p.token_wellFormed hKind
  · exact readToken_bare hMode hAtToken p.token_wellFormed
      hKind hEnds

/- There is no next token where only blanks follow. -/
theorem next_blank
    (hBlank : Text.Blank s.rest) :
    s.next = (.ok none, s.advance s.rest.length) := by
  have hRest : s.rest = s.rest ++ [] :=
    (List.append_nil _).symm
  have hNothing :
      ∀ c ∈ ([] : List Char).head?, Text.isBlank c = false := by
    simp
  rw [next, skipBlanks_eq hRest hBlank hNothing]
  simp [readToken]

/- A scanner at its end stays there, and has no more tokens. -/
theorem next_of_rest_eq_nil
    {s : Scanner}
    (hRest : s.rest = []) :
    s.next = (.ok none, s) := by
  have hBlank : Text.Blank s.rest := by
    rw [hRest]
    exact List.forall_mem_nil _
  have hNext := next_blank hBlank
  rw [hRest, List.length_nil, advance_zero] at hNext
  exact hNext

/- A string without an end is an error at its quote. -/
theorem next_unclosed
    {gap content : List Char}
    (hRest : s.rest = gap ++ quote :: content)
    (hGap : Text.Blank gap)
    (hContent : quote ∉ content) :
    s.next =
      (.error (.unterminatedString
          (s.place (s.position + gap.length))),
        s.advance s.rest.length) := by
  have hOther := bne_quote_of_notMem hContent
  have hBody :
      ∀ c ∈ (quote :: content).head?,
        Text.isBlank c = false := by
    intro c hHead
    rw [List.head?_cons, Option.mem_def,
      Option.some.injEq] at hHead
    rw [← hHead]
    decide
  have hAtQuote :
      (s.advance gap.length).rest = quote :: content := by
    rw [rest_advance, hRest, List.drop_left]
  have hTake : content.takeWhile (· != quote) = content :=
    List.takeWhile_eq_self_iff.mpr hOther
  have hDrop : content.dropWhile (· != quote) = [] :=
    List.dropWhile_eq_nil_iff.mpr hOther
  have hWidth :
      s.advance s.rest.length =
        (s.advance gap.length).advance
          (content.length + 1) := by
    rw [advance_advance, hRest, List.length_append,
      List.length_cons]
  rw [next, skipBlanks_eq hRest hGap hBody, hWidth]
  simp only [readToken, hAtQuote, if_true, readString, hTake,
    hDrop]
  rfl

end Scanner

end MathScan

------------------------------------------------------------
-- What a Read May Come To
------------------------------------------------------------

namespace MathScan

namespace Scanner

/-
  What a read of the next token may come to: there is none,
  if only blanks follow; there is one, of characters that
  follow; or a string has no end. Nothing is left behind the
  first and the last.
-/
inductive Outcome
    (s : Scanner) :
    Except ScanError (Option Token) × Scanner → Prop where
  | nothing
      (hBlank : Text.Blank s.rest) :
      Outcome s (.ok none, s.advance s.rest.length)
  | token
      {t : Token}
      {n : Nat}
      (hWidth : n ≤ s.rest.length) :
      Outcome s (.ok (some t), s.advance n)
  | unclosed
      {place : Location} :
      Outcome s
        (.error (.unterminatedString place),
          s.advance s.rest.length)

/- A read of the next token comes to nothing else. -/
theorem next_outcome
    (s : Scanner) :
    s.Outcome s.next := by
  have hFront := front s.mode s.rest
  generalize hRest : s.rest = cs at hFront
  cases hFront with
  | blank hGap =>
      have hBlank : Text.Blank s.rest := by
        rw [hRest]
        exact hGap
      rw [next_blank hBlank]
      exact .nothing hBlank
  | @piece p after hEnds =>
      have hWidth : p.chars.length ≤ s.rest.length := by
        rw [hRest, List.length_append]
        exact Nat.le_add_right _ _
      rw [next_piece rfl p hRest hEnds]
      exact .token hWidth
  | unclosed hGap hContent =>
      rw [next_unclosed hRest hGap hContent]
      exact .unclosed

/- A read of the next token only fails at an open string. -/
theorem error_next
    {s : Scanner}
    {e : ScanError}
    (hError : s.next.1 = .error e) :
    ∃ place, e = .unterminatedString place := by
  have hOutcome := s.next_outcome
  generalize s.next = reply at hError hOutcome
  cases hOutcome with
  | nothing hBlank => cases hError
  | token hWidth => cases hError
  | @unclosed place =>
      cases hError
      exact ⟨place, rfl⟩

end Scanner

end MathScan
