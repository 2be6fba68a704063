import MathScan.Proofs.Sharing

/-
  Progress of a scanner. Each token that is given takes at
  least one character that is no blank out of what is left, so
  that no more tokens are given than the source has such
  characters, whatever is asked and in whatever order. There
  is no next token just where only blanks follow, and from
  then on there never is.

  Key definitions include:
    * `Text.visible`
    * `Scanner.Gives`
    * `Session.Stops`
    * `Session.Progresses`

  The key statements are:
    * `Scanner.next_advances`
    * `Scanner.Gives.visible_le`
    * `Session.step_gives`
    * `Session.run_progresses`
-/

------------------------------------------------------------
-- Characters That Are No Blanks
------------------------------------------------------------

namespace MathScan

namespace Text

/- How many characters are no blanks. -/
def visible
    (cs : List Char) : Nat :=
  cs.countP fun c => !isBlank c

theorem visible_append
    (cs ds : List Char) :
    visible (cs ++ ds) = visible cs + visible ds :=
  List.countP_append

/- What is left of a text has no more of them. -/
theorem visible_drop_le
    (n : Nat)
    (cs : List Char) :
    visible (cs.drop n) ≤ visible cs :=
  (List.drop_sublist n cs).countP_le

end Text

namespace Piece

variable {mode : NumberMode}

/- The first character of a token is no blank. -/
theorem visible_pos
    (p : Piece mode) :
    0 < Text.visible p.chars := by
  rcases p.token_wellFormed.exists_cons with
    ⟨c, more, hChars, hBlank, _⟩
  apply List.countP_pos_iff.mpr
  refine ⟨c, ?_, by simp [hBlank]⟩
  rw [chars, hChars]
  exact List.mem_append_right _ List.mem_cons_self

/- There are no more pieces than such characters in them. -/
theorem length_le_visible
    (ps : List (Piece mode)) :
    ps.length ≤ Text.visible (text ps) := by
  induction ps with
  | nil => exact Nat.zero_le _
  | cons p ps ih =>
      have hSome := p.visible_pos
      rw [text_cons, Text.visible_append, List.length_cons]
      omega

/- Each piece has one token. -/
theorem length_tokens
    {place : Nat → Location}
    {offset : Nat}
    (ps : List (Piece mode)) :
    (tokens place offset ps).length = ps.length := by
  induction ps generalizing offset with
  | nil => rfl
  | cons p ps ih => rw [tokens, List.length_cons, ih, List.length_cons]

end Piece

end MathScan

------------------------------------------------------------
-- Reads of a Scanner
------------------------------------------------------------

namespace MathScan

namespace Scanner

variable {s u : Scanner} {t : Token}

/- A token that is read is that of a piece at the cursor. -/
theorem exists_piece_of_next
    (hNext : s.next = (.ok (some t), u)) :
    ∃ (p : Piece s.mode) (after : List Char),
      s.rest = p.chars ++ after ∧
        t = p.token.placed
          (s.place (s.position + p.gap.length)) ∧
        u = s.advance p.chars.length := by
  have hFront := front s.mode s.rest
  generalize hRest : s.rest = cs at hFront
  cases hFront with
  | blank hGap =>
      rw [next_blank (hRest ▸ hGap)] at hNext
      cases hNext
  | @piece p after hEnds =>
      rw [next_piece rfl p hRest hEnds] at hNext
      cases hNext
      exact ⟨p, after, rfl, rfl, rfl⟩
  | unclosed hGap hContent =>
      rw [next_unclosed hRest hGap hContent] at hNext
      cases hNext

/-
  A token that is read moves the cursor, right behind the
  token, and takes a character that is no blank from what is
  left.
-/
theorem next_advances
    (hNext : s.next = (.ok (some t), u)) :
    s.position < u.position ∧ t.EndsAt u.position ∧
      Text.visible u.rest < Text.visible s.rest := by
  rcases exists_piece_of_next hNext with
    ⟨p, after, hRest, rfl, rfl⟩
  have hSome := List.length_pos_iff.mpr p.chars_ne_nil
  refine ⟨?_, ?_, ?_⟩
  · rw [position_advance]
    omega
  · rw [Token.endsAt_placed, offset_place, position_advance,
      p.length_chars]
    omega
  · have hVisible := p.visible_pos
    rw [rest_advance, hRest, List.drop_left,
      Text.visible_append]
    omega

/- There is no next token just where only blanks follow. -/
theorem next_eq_none_iff
    (s : Scanner) :
    s.next.1 = .ok none ↔ Text.Blank s.rest := by
  constructor
  · intro hNone
    have hOutcome := s.next_outcome
    generalize s.next = reply at hNone hOutcome
    cases hOutcome with
    | nothing hBlank => exact hBlank
    | token hWidth => cases hNone
    | unclosed => cases hNone
  · intro hBlank
    rw [next_blank hBlank]

/- A drain gives no more tokens than such characters follow. -/
theorem length_drain_le
    (s : Scanner) :
    s.drain.tokens.length ≤ Text.visible s.rest := by
  rcases nonempty_reading s.mode s.rest with ⟨r⟩
  have hPieces := Piece.length_le_visible r.layout.pieces
  have hText := congrArg Text.visible r.text_eq
  rw [Layout.text, Text.visible_append, Text.visible_append]
    at hText
  rw [drain_reading rfl rfl r, Piece.length_tokens]
  omega

/- Where a quote stands, a read of the next token reads it. -/
theorem next_of_quote
    {more : List Char}
    (hRest : s.rest = quote :: more) :
    s.next = (s.readString.1.map some, s.readString.2) := by
  have hSkip : s.skipBlanks = s := by
    have hNone :
        (quote :: more).takeWhile Text.isBlank = [] :=
      List.takeWhile_cons_of_neg (by decide)
    rw [skipBlanks, hRest, hNone, List.length_nil, advance_zero]
  simp only [next, hSkip, readToken, hRest, if_true]

/- A string that can be read is the next token. -/
theorem next_of_readString
    (hRead : s.readString.1 = .ok t) :
    s.next = (.ok (some t), s.readString.2) := by
  have hQuote : ∃ more, s.rest = quote :: more := by
    rw [readString] at hRead
    cases hRest : s.rest with
    | nil =>
        rw [hRest] at hRead
        cases hRead
    | cons c more =>
        by_cases hQuote : c = quote
        · exact ⟨more, by rw [hQuote]⟩
        · simp [hRest, hQuote] at hRead
  rcases hQuote with ⟨more, hRest⟩
  rw [next_of_quote hRest, hRead]
  rfl

end Scanner

end MathScan

------------------------------------------------------------
-- What a Request Gives
------------------------------------------------------------

namespace MathScan

namespace Scanner

/-
  What a scanner gives in answer to a request, and how that
  leaves it: nothing, with the cursor anywhere further on; the
  next token; or all tokens, with nothing left.
-/
inductive Gives
    (s : Scanner) : List Token → Scanner → Prop where
  | nothing
      {u : Scanner}
      (hMoved : s.Moved u) :
      Gives s [] u
  | one
      {t : Token}
      {u : Scanner}
      (hNext : s.next = (.ok (some t), u)) :
      Gives s [t] u
  | all
      {u : Scanner}
      (hRest : u.rest = []) :
      Gives s s.drain.tokens u

variable {s u : Scanner} {ts : List Token}

/- What is left behind further on has no more visible in it. -/
theorem Moved.visible_le
    (hMoved : s.Moved u) :
    Text.visible u.rest ≤ Text.visible s.rest := by
  have hBehind :
      s.position + (u.position - s.position) = u.position :=
    Nat.add_sub_of_le hMoved.position_le
  rw [u.rest_eq, hMoved.source_eq, ← hBehind, ← List.drop_drop,
    ← s.rest_eq]
  exact Text.visible_drop_le _ _

/- At its end, a scanner stays there and has no more tokens. -/
theorem Moved.at_end
    (hMoved : s.Moved u)
    (hEnd : s.position = s.source.length) :
    u.position = s.source.length ∧ u.next = (.ok none, u) := by
  have hWithin := hMoved.within hEnd.le
  have hPosition :=
    Nat.le_antisymm hWithin (hEnd ▸ hMoved.position_le)
  refine ⟨hPosition, next_of_rest_eq_nil ?_⟩
  rw [rest_eq_nil_iff (hMoved.source_eq ▸ hWithin),
    hMoved.source_eq]
  exact hPosition

/-
  Each token that is given takes a character that is no blank
  from what is left.
-/
theorem Gives.visible_le
    (hGives : s.Gives ts u) :
    ts.length + Text.visible u.rest ≤ Text.visible s.rest := by
  cases hGives with
  | nothing hMoved =>
      have hLess := hMoved.visible_le
      rw [List.length_nil]
      omega
  | one hNext =>
      have hLess := (next_advances hNext).2.2
      rw [List.length_singleton]
      omega
  | all hRest =>
      rw [hRest]
      exact s.length_drain_le

theorem Gives.wellFormed
    (hGives : s.Gives ts u)
    {t : Token}
    (hMem : t ∈ ts) :
    t.WellFormed s.mode := by
  apply wellFormed_of_mem_drain
  cases hGives with
  | nothing hMoved => exact absurd hMem List.not_mem_nil
  | one hNext =>
      rw [drain_of_next_token hNext, List.mem_singleton.mp hMem]
      exact List.mem_cons_self
  | all hRest => exact hMem

theorem gives_next
    (s : Scanner) :
    s.Gives (Session.given (s.next.1.map .token)) s.next.2 := by
  have hMoved := s.moved_next
  cases hNext : s.next with
  | mk answer u =>
      rw [hNext] at hMoved
      cases answer with
      | error e => exact .nothing hMoved
      | ok found =>
          cases found with
          | none => exact .nothing hMoved
          | some t => exact .one hNext

theorem gives_readString
    (s : Scanner) :
    s.Gives
      (Session.given (s.readString.1.map (.token ∘ some)))
      s.readString.2 := by
  cases hRead : s.readString.1 with
  | error e => exact .nothing s.moved_readString
  | ok t => exact .one (next_of_readString hRead)

theorem gives_tokenize
    (s : Scanner) :
    s.Gives (Session.given (s.tokenize.1.map .tokens))
      s.tokenize.2 := by
  have hMoved := s.moved_tokenize
  rw [tokenize_eq] at hMoved ⊢
  cases s.drain.failure with
  | none => exact .all s.rest_advance_length
  | some e => exact .nothing hMoved

end Scanner

namespace Session

/- A request gives what a read gives, or no tokens. -/
theorem step_gives
    (session : Session)
    (request : Request) :
    session.scanner.Gives (given (session.step request).1)
      (session.step request).2.scanner := by
  have hMoved := step_moved session request
  have hNothing
      (hNone : given (session.step request).1 = []) :
      session.scanner.Gives (given (session.step request).1)
        (session.step request).2.scanner :=
    hNone ▸ .nothing hMoved
  cases request with
  | next => exact session.scanner.gives_next
  | tokenize => exact session.scanner.gives_tokenize
  | readString => exact session.scanner.gives_readString
  | advanceIterator index =>
      by_cases hLive : session.iterators.getD index false = true
      · rw [step, advanceIterator, if_pos hLive]
        exact session.scanner.gives_next
      · apply hNothing
        rw [step, advanceIterator, if_neg hLive]
        rfl
  | peek =>
      apply hNothing
      rw [step, answered]
      cases session.scanner.peek with
      | error e => rfl
      | ok c => rfl
  | read =>
      apply hNothing
      rw [step, answered]
      cases session.scanner.read.1 with
      | error e => rfl
      | ok c => rfl
  | _ => exact hNothing rfl

/- Runs give no more tokens than there are such characters. -/
theorem length_given_run_le
    (session : Session)
    (requests : List Request) :
    ((session.run requests).flatMap (given ·.answer)).length ≤
      Text.visible session.scanner.rest := by
  induction requests generalizing session with
  | nil => exact Nat.zero_le _
  | cons request more ih =>
      have hStep := (step_gives session request).visible_le
      have hMore := ih (session.step request).2
      rw [run, List.flatMap_cons, List.length_append]
      exact (Nat.add_le_add_left hMore _).trans hStep

theorem wellFormed_of_mem_run
    {session : Session}
    {requests : List Request}
    {t : Token}
    (hMem : t ∈ (session.run requests).flatMap (given ·.answer)) :
    ∃ mode, t.WellFormed mode := by
  induction requests generalizing session with
  | nil => exact absurd hMem List.not_mem_nil
  | cons request more ih =>
      rw [run, List.flatMap_cons, List.mem_append] at hMem
      rcases hMem with hHere | hLater
      · exact ⟨_, (step_gives session request).wellFormed hHere⟩
      · exact ih hLater

end Session

end MathScan

------------------------------------------------------------
-- The End of a Scanner
------------------------------------------------------------

namespace MathScan

namespace Session

/- Whether an answer to a read of the next token is the last. -/
def Stops
    (answer : Except ScanError Answer) : Prop :=
  answer = .ok (.token none) ∨
    ∃ e, answer = .error e ∧ e.code = some "L002"

/- A read of the next token is the last, or gives a token. -/
theorem stops_or_advances
    (session : Session) :
    Stops (session.step .next).1 ∨
      Text.visible (session.step .next).2.scanner.rest <
        Text.visible session.scanner.rest := by
  cases hNext : session.scanner.next with
  | mk answer u =>
      rw [step, answered, hNext]
      cases answer with
      | error e =>
          rcases Scanner.error_next (congrArg Prod.fst hNext)
            with ⟨place, rfl⟩
          exact .inl (.inr ⟨_, rfl, rfl⟩)
      | ok found =>
          cases found with
          | none => exact .inl (.inl rfl)
          | some t =>
              exact .inr (Scanner.next_advances hNext).2.2

/-
  Of more reads of the next token than there are characters
  that are no blanks, one is the last.
-/
theorem exists_stop_of_lt_count
    {session : Session}
    {requests : List Request}
    (hMany :
      Text.visible session.scanner.rest < requests.count .next) :
    ∃ before more, requests = before ++ .next :: more ∧
      Stops ((session.after before).step .next).1 := by
  induction requests generalizing session with
  | nil => exact absurd hMany (Nat.not_lt_zero _)
  | cons request requests ih =>
      have hLater
          (hLess :
            Text.visible
                (session.step request).2.scanner.rest <
              requests.count .next) :
          ∃ before more,
            request :: requests = before ++ .next :: more ∧
              Stops ((session.after before).step .next).1 := by
        rcases ih hLess with ⟨before, more, rfl, hStops⟩
        exact ⟨request :: before, more, rfl, hStops⟩
      by_cases hOne : request = .next
      · subst hOne
        rw [List.count_cons_self] at hMany
        rcases stops_or_advances session with
          hStops | hAdvances
        · exact ⟨[], requests, rfl, hStops⟩
        · exact hLater (by omega)
      · rw [List.count_cons_of_ne hOne] at hMany
        have hStep := (step_moved session request).visible_le
        exact hLater (by omega)

/-
  How a scanner comes to its end. A token that is read moves
  the cursor right behind it. There is no next token just
  where only blanks follow, and from then on there is none and
  the cursor stays at the end of the source. A drain gives no
  more tokens than there are characters in front of it that
  are no blanks, and only fails at a string without an end.
-/
structure Progresses
    (source : List Char)
    (session : Session) : Prop where
  token_advances :
    ∀ t, session.scanner.next.1 = .ok (some t) →
      session.scanner.position <
          session.scanner.next.2.position ∧
        t.EndsAt session.scanner.next.2.position
  none_iff :
    session.scanner.next.1 = .ok none ↔
      Text.Blank (source.drop session.scanner.position)
  none_for_good :
    session.scanner.next.1 = .ok none →
      ∀ more,
        let later := ((session.step .next).2.after more).scanner
        later.position = source.length ∧
          later.next = (.ok none, later)
  drain_length_le :
    session.scanner.drain.tokens.length ≤
      Text.visible (source.drop session.scanner.position)
  drain_failure :
    ∀ e ∈ session.scanner.drain.failure, e.code = some "L002"

/- A scanner with its cursor in the source comes to its end. -/
theorem progresses_of_within
    {session : Session}
    (hWithin :
      session.scanner.position ≤
        session.scanner.source.length) :
    Progresses session.scanner.source session := by
  refine
    { token_advances := ?_
      none_iff := ?_
      none_for_good := ?_
      drain_length_le := ?_
      drain_failure := ?_ }
  · intro t hNext
    have hAdvances := Scanner.next_advances
      (Prod.ext hNext rfl : session.scanner.next = (_, _))
    exact ⟨hAdvances.1, hAdvances.2.1⟩
  · rw [← session.scanner.rest_eq]
    exact session.scanner.next_eq_none_iff
  · intro hNone more
    have hMoved := step_moved session .next
    have hLeft : (session.step .next).2.scanner.rest = [] := by
      apply Scanner.rest_next_of_gaveToken_eq_false
      rw [hNone]
      rfl
    have hInside := hMoved.within hWithin
    rw [← hMoved.source_eq] at hInside ⊢
    exact
      (after_moved _ more).at_end
        ((Scanner.rest_eq_nil_iff hInside).mp hLeft)
  · rw [← session.scanner.rest_eq]
    exact session.scanner.length_drain_le
  · intro e hFails
    rcases Scanner.failure_drain hFails with ⟨place, rfl⟩
    rfl

/-
  Whatever a scanner has been asked, it comes to its end. In
  all, no more tokens are given than the source has characters
  that are no blanks, and of more reads of the next token than
  there are such characters one is the last.
-/
theorem run_progresses
    (source : List Char)
    (filename : String)
    (mode : NumberMode)
    (requests : List Request) :
    let start := ofScanner (.ofChars source filename mode)
    Progresses source (start.after requests) ∧
      ((start.run requests).flatMap (given ·.answer)).length ≤
        Text.visible source ∧
      (Text.visible source < requests.count .next →
        ∃ before more, requests = before ++ .next :: more ∧
          Stops ((start.after before).step .next).1) := by
  intro start
  have hStart := after_moved start requests
  have hWithin := hStart.within (Nat.zero_le _)
  rw [← hStart.source_eq] at hWithin
  have hEnds := progresses_of_within hWithin
  rw [hStart.source_eq] at hEnds
  exact
    ⟨hEnds, length_given_run_le start requests,
      fun hMany => exists_stop_of_lt_count hMany⟩

end Session

end MathScan
