import MathScan.Proofs.Guards
import MathScan.Proofs.Suffix
import MathScan.Scanner.Session

/-
  The cursor of a session. Whatever is asked, and in whatever
  order, the cursor only moves forward and stays within the
  source, and what is read from then on follows from the text
  behind it alone.

  Key definitions include:
    * `Scanner.Moved`
    * `Request.asksCharacter`
    * `Request.asksTokens`
    * `Session.after`
    * `Session.SafeStep`

  The key statements are:
    * `Session.step_moved`
    * `Session.step_error`
    * `Session.safeStep_after`
    * `Session.drain_after_requests`
-/

------------------------------------------------------------
-- Codes of Errors
------------------------------------------------------------

namespace MathScan

namespace ScanError

@[simp] theorem code_malformedString
    (found : String)
    (place : Location) :
    (malformedString found place).code = some "L001" := rfl

@[simp] theorem code_unterminatedString
    (place : Location) :
    (unterminatedString place).code = some "L002" := rfl

end ScanError

end MathScan

------------------------------------------------------------
-- Moves of a Cursor
------------------------------------------------------------

namespace MathScan

namespace Scanner

/-
  Whether a scanner comes from another one by moves of the
  cursor that do not go back, and do not leave the source.
-/
structure Moved
    (s u : Scanner) : Prop where
  source_eq : u.source = s.source
  position_le : s.position ≤ u.position
  within :
    s.position ≤ s.source.length →
      u.position ≤ s.source.length

variable {s u v : Scanner}

theorem Moved.refl
    (s : Scanner) :
    s.Moved s :=
  ⟨rfl, Nat.le_refl _, id⟩

theorem Moved.trans
    (hFirst : s.Moved u)
    (hSecond : u.Moved v) :
    s.Moved v := by
  refine ⟨hSecond.source_eq.trans hFirst.source_eq,
    Nat.le_trans hFirst.position_le hSecond.position_le, ?_⟩
  intro hWithin
  have hNext := hFirst.within hWithin
  rw [← hFirst.source_eq] at hNext ⊢
  exact hSecond.within hNext

theorem length_rest
    (s : Scanner) :
    s.rest.length = s.source.length - s.position := by
  rw [s.rest_eq, List.length_drop]

/- A cursor moves over characters that follow it. -/
theorem moved_advance
    {n : Nat}
    (hWidth : n ≤ s.rest.length) :
    s.Moved (s.advance n) := by
  rw [length_rest] at hWidth
  refine ⟨rfl, Nat.le_add_right _ _, ?_⟩
  intro hWithin
  rw [position_advance]
  omega

/- Nothing is left exactly at the end of the source. -/
theorem rest_eq_nil_iff
    (hWithin : s.position ≤ s.source.length) :
    s.rest = [] ↔ s.position = s.source.length := by
  rw [← List.length_eq_zero_iff, length_rest]
  omega

theorem moved_next
    (s : Scanner) :
    s.Moved s.next.2 := by
  have hOutcome := next_outcome s
  generalize s.next = reply at hOutcome
  cases hOutcome with
  | nothing hBlank => exact moved_advance (Nat.le_refl _)
  | token hWidth => exact moved_advance hWidth
  | unclosed => exact moved_advance (Nat.le_refl _)

theorem moved_tokenize
    (s : Scanner) :
    s.Moved s.tokenize.2 := by
  rw [tokenize_eq]
  exact moved_advance (Nat.le_refl _)

theorem moved_read
    (s : Scanner) :
    s.Moved s.read.2 := by
  rw [read]
  cases hRest : s.rest with
  | nil => exact Moved.refl s
  | cons c more =>
      apply moved_advance
      rw [hRest, List.length_cons]
      omega

/- A string is read by a move, and so is what is none. -/
theorem moved_readString
    (s : Scanner) :
    s.Moved s.readString.2 := by
  rw [readString]
  cases hRest : s.rest with
  | nil => exact Moved.refl s
  | cons c more =>
      have hSplit := congrArg List.length
        (List.takeWhile_append_dropWhile
          (p := (· != quote)) (l := more))
      rw [List.length_append] at hSplit
      by_cases hQuote : c = quote
      · simp only [hQuote, if_true]
        cases hClose : more.dropWhile (· != quote) with
        | nil =>
            apply moved_advance
            rw [hRest, List.length_cons]
            omega
        | cons d after =>
            apply moved_advance
            rw [hClose, List.length_cons] at hSplit
            rw [hRest, List.length_cons]
            omega
      · simp only [hQuote, if_false]
        apply moved_advance
        rw [hRest, List.length_cons]
        omega

/-
  A read of a string fails where nothing is left, where no
  string begins, and where a string has no end.
-/
theorem error_readString
    {e : ScanError}
    (hError : s.readString.1 = .error e) :
    s.rest = [] ∨
      (∃ place, e = .unterminatedString place) ∨
      ∃ found place, e = .malformedString found place := by
  rw [readString] at hError
  cases hRest : s.rest with
  | nil => exact .inl rfl
  | cons c more =>
      rw [hRest] at hError
      by_cases hQuote : c = quote
      · simp only [hQuote, if_true] at hError
        cases hClose : more.dropWhile (· != quote) with
        | nil =>
            rw [hClose] at hError
            exact .inr (.inl ⟨_, (Except.error.inj hError).symm⟩)
        | cons d after =>
            rw [hClose] at hError
            cases hError
      · simp only [hQuote, if_false] at hError
        exact .inr (.inr
          ⟨_, _, (Except.error.inj hError).symm⟩)

end Scanner

end MathScan

------------------------------------------------------------
-- Steps of a Session
------------------------------------------------------------

namespace MathScan

namespace Request

/- Whether a request is for what stands right at the cursor. -/
def asksCharacter : Request → Bool
  | peek => true
  | read => true
  | readString => true
  | _ => false

/- Whether a request is for tokens that may lie further on. -/
def asksTokens : Request → Bool
  | next => true
  | tokenize => true
  | advanceIterator _ => true
  | _ => false

/- No request is of both classes. -/
theorem asksTokens_eq_false
    {request : Request}
    (hAsks : request.asksCharacter = true) :
    request.asksTokens = false := by
  cases request with
  | next => cases hAsks
  | tokenize => cases hAsks
  | advanceIterator index => cases hAsks
  | _ => rfl

end Request

namespace Session

variable {session : Session} {request : Request}

/- An iterator that is live reads the next token. -/
theorem scanner_advanceIterator
    (session : Session)
    (index : Nat) :
    (session.advanceIterator index).2.scanner =
      if session.iterators.getD index false then
        session.scanner.next.2
      else
        session.scanner := by
  rw [advanceIterator]
  split
  · rfl
  · rfl

/- Each request is answered by a move of the cursor. -/
theorem step_moved
    (session : Session)
    (request : Request) :
    session.scanner.Moved (session.step request).2.scanner := by
  cases request with
  | next => exact Scanner.moved_next session.scanner
  | tokenize => exact Scanner.moved_tokenize session.scanner
  | newIterator => exact Scanner.Moved.refl session.scanner
  | advanceIterator index =>
      rw [step, scanner_advanceIterator]
      split
      · exact Scanner.moved_next session.scanner
      · exact Scanner.Moved.refl session.scanner
  | peek => exact Scanner.Moved.refl session.scanner
  | read => exact Scanner.moved_read session.scanner
  | readString =>
      exact Scanner.moved_readString session.scanner
  | locate offset => exact Scanner.Moved.refl session.scanner
  | describe => exact Scanner.Moved.refl session.scanner
  | rename filename => exact ⟨rfl, Nat.le_refl _, id⟩
  | setMode mode => exact ⟨rfl, Nat.le_refl _, id⟩

/-
  Where nothing is left, a request for what stands at the
  cursor is an error, and changes nothing.
-/
theorem step_at_end
    (hAsks : request.asksCharacter = true)
    (hRest : session.scanner.rest = []) :
    session.step request =
      (.error session.scanner.overrun, session) := by
  cases request with
  | peek =>
      rw [step, answered, Scanner.peek, hRest]
      rfl
  | read =>
      rw [step, answered, Scanner.read, hRest]
      rfl
  | readString =>
      rw [step, answered, Scanner.readString, hRest]
      rfl
  | _ => cases hAsks

/- The errors of an answer are those of the read behind it. -/
theorem error_answered
    {α : Type}
    {make : α → Answer}
    {reply : Except ScanError α × Scanner}
    {e : ScanError}
    (hError : (session.answered make reply).1 = .error e) :
    reply.1 = .error e := by
  rw [answered] at hError
  cases hReply : reply.1 with
  | error d =>
      rw [hReply] at hError
      exact congrArg Except.error (Except.error.inj hError)
  | ok x =>
      rw [hReply] at hError
      cases hError

/-
  The errors of a step. Where nothing is left, there is none
  but at a request for what stands at the cursor. Elsewhere a
  request for tokens only fails at a string without an end,
  and one for a string also where no string begins.
-/
theorem step_error
    {e : ScanError}
    (hError : (session.step request).1 = .error e) :
    (request.asksCharacter = true ∧
        session.scanner.rest = []) ∨
      (request.asksTokens = true ∧
        ∃ place, e = .unterminatedString place) ∨
      (request = .readString ∧
        ((∃ place, e = .unterminatedString place) ∨
          ∃ found place, e = .malformedString found place)) := by
  cases request with
  | next =>
      exact .inr (.inl
        ⟨rfl, Scanner.error_next (error_answered hError)⟩)
  | tokenize =>
      have hDrain := error_answered hError
      rw [Scanner.tokenize_eq] at hDrain
      cases hFailure : session.scanner.drain.failure with
      | none =>
          rw [hFailure] at hDrain
          cases hDrain
      | some d =>
          rw [hFailure] at hDrain
          cases hDrain
          exact .inr (.inl
            ⟨rfl, Scanner.failure_drain hFailure⟩)
  | advanceIterator index =>
      rw [step, advanceIterator] at hError
      split at hError
      · exact .inr (.inl
          ⟨rfl, Scanner.error_next (error_answered hError)⟩)
      · cases hError
  | peek =>
      have hPeek := error_answered hError
      cases hRest : session.scanner.rest with
      | nil => exact .inl ⟨rfl, rfl⟩
      | cons c more =>
          rw [Scanner.peek, hRest] at hPeek
          cases hPeek
  | read =>
      have hRead := error_answered hError
      cases hRest : session.scanner.rest with
      | nil => exact .inl ⟨rfl, rfl⟩
      | cons c more =>
          rw [Scanner.read, hRest] at hRead
          cases hRead
  | readString =>
      rcases Scanner.error_readString (error_answered hError)
        with hRest | hOther
      · exact .inl ⟨rfl, hRest⟩
      · exact .inr (.inr ⟨rfl, hOther⟩)
  | newIterator => cases hError
  | locate offset => cases hError
  | describe => cases hError
  | rename filename => cases hError
  | setMode mode => cases hError

/-
  A read past the end is an error only of a request for what
  stands at the cursor, where nothing is left.
-/
theorem asksCharacter_of_overrun
    {e : ScanError}
    (hError : (session.step request).1 = .error e)
    (hCode : e.code = some "L003") :
    request.asksCharacter = true ∧
      session.scanner.rest = [] := by
  rcases step_error hError with
    hEnd | ⟨_, _, rfl⟩ | ⟨_, ⟨_, rfl⟩ | ⟨_, _, rfl⟩⟩
  · exact hEnd
  · simp at hCode
  · simp at hCode
  · simp at hCode

end Session

end MathScan

------------------------------------------------------------
-- Histories
------------------------------------------------------------

namespace MathScan

namespace Session

/- A session after some requests, whatever their answers. -/
def after
    (session : Session)
    (requests : List Request) : Session :=
  requests.foldl (fun s request => (s.step request).2) session

theorem after_cons
    (session : Session)
    (request : Request)
    (more : List Request) :
    session.after (request :: more) =
      (session.step request).2.after more := rfl

/- Any requests are answered by moves of the cursor. -/
theorem after_moved
    (session : Session)
    (requests : List Request) :
    session.scanner.Moved (session.after requests).scanner := by
  induction requests generalizing session with
  | nil => exact Scanner.Moved.refl session.scanner
  | cons request more ih =>
      exact (step_moved session request).trans
        (ih (session.step request).2)

/-
  What a request may do to a scanner. It leaves the source as
  it is, and moves the cursor neither back nor out of the
  source. A read past the end is an error exactly of the
  requests for what stands at the cursor, where the cursor is
  at the end; it changes nothing, and its place is the end of
  the source. Requests for tokens only fail at a string
  without an end: all other checks on the way pass.
-/
structure SafeStep
    (source : List Char)
    (session : Session)
    (request : Request) : Prop where
  source_eq : session.scanner.source = source
  source_step : (session.step request).2.scanner.source = source
  position_le :
    session.scanner.position ≤
      (session.step request).2.scanner.position
  within :
    (session.step request).2.scanner.position ≤ source.length
  overrun_iff :
    (∃ e, (session.step request).1 = .error e ∧
        e.code = some "L003") ↔
      request.asksCharacter = true ∧
        session.scanner.position = source.length
  overrun_kept :
    ∀ e, (session.step request).1 = .error e →
      e.code = some "L003" →
        (session.step request).2 = session ∧
          e.location = session.scanner.place source.length
  unclosed_of_asksTokens :
    request.asksTokens = true →
      ∀ e, (session.step request).1 = .error e →
        e.code = some "L002"
  next_checked :
    session.scanner.guardedNext =
      (session.scanner.next.1.mapError .scan,
        session.scanner.next.2)
  tokenize_checked :
    session.scanner.guardedTokenize =
      (session.scanner.tokenize.1.mapError .scan,
        session.scanner.tokenize.2)

/-
  Whatever a scanner has been asked, in whatever order, the
  next request is safe.
-/
theorem safeStep_after
    (source : List Char)
    (filename : String)
    (mode : NumberMode)
    (requests : List Request)
    (request : Request) :
    SafeStep source
      ((ofScanner (.ofChars source filename mode)).after
        requests)
      request := by
  have hStart :=
    after_moved (ofScanner (.ofChars source filename mode))
      requests
  generalize
    (ofScanner (.ofChars source filename mode)).after requests =
      session at hStart ⊢
  have hStep := step_moved session request
  have hSource : session.scanner.source = source :=
    hStart.source_eq
  have hWithin : session.scanner.position ≤ source.length :=
    hStart.within (Nat.zero_le _)
  subst hSource
  have hRest := Scanner.rest_eq_nil_iff hWithin
  refine
    { source_eq := rfl
      source_step := hStep.source_eq
      position_le := hStep.position_le
      within := hStep.within hWithin
      overrun_iff := ⟨?_, ?_⟩
      overrun_kept := ?_
      unclosed_of_asksTokens := ?_
      next_checked := Scanner.guardedNext_eq session.scanner
      tokenize_checked :=
        Scanner.guardedTokenize_eq session.scanner }
  · rintro ⟨e, hError, hCode⟩
    rcases asksCharacter_of_overrun hError hCode with
      ⟨hAsks, hNone⟩
    exact ⟨hAsks, hRest.mp hNone⟩
  · rintro ⟨hAsks, hEnd⟩
    have hReply := step_at_end hAsks (hRest.mpr hEnd)
    exact ⟨session.scanner.overrun,
      congrArg Prod.fst hReply, rfl⟩
  · intro e hError hCode
    rcases asksCharacter_of_overrun hError hCode with
      ⟨hAsks, hNone⟩
    rw [step_at_end hAsks hNone] at hError ⊢
    cases hError
    exact ⟨rfl, rfl⟩
  · intro hAsks e hError
    rcases step_error hError with
      ⟨hOther, _⟩ | ⟨_, _, rfl⟩ | ⟨rfl, _⟩
    · rw [Request.asksTokens_eq_false hOther] at hAsks
      cases hAsks
    · rfl
    · cases hAsks

/-
  Whatever a scanner has been asked, what a drain reads from
  then on is what it reads of the text behind the cursor on
  its own, moved behind the text in front of it. If it fails,
  it fails at a string without an end.
-/
theorem drain_after_requests
    (source : List Char)
    (filename : String)
    (mode : NumberMode)
    (requests : List Request) :
    let s :=
      ((ofScanner (.ofChars source filename mode)).after
        requests).scanner
    let before := source.take s.position
    let u :=
      Scanner.ofChars (source.drop s.position) s.filename s.mode
    s.drain.tokens = u.drain.tokens.map (Token.after before) ∧
      s.drain.failure =
        u.drain.failure.map (ScanError.after before) ∧
      s.drain.scanner.position =
        u.drain.scanner.position + s.position ∧
      ∀ e ∈ s.drain.failure, e.code = some "L002" := by
  intro s before u
  have hStart :
      (Scanner.ofChars source filename mode).Moved s :=
    after_moved (ofScanner _) requests
  have hWithin : s.position ≤ source.length :=
    hStart.within (Nat.zero_le _)
  have hLength : before.length = s.position := by
    rw [List.length_take]
    exact Nat.min_eq_left hWithin
  have hSource : s.source = before ++ u.source :=
    hStart.source_eq.trans (List.take_append_drop _ _).symm
  rcases Scanner.drain_after (s := s) (u := u) rfl rfl hSource
      hLength.symm with
    ⟨hTokens, hFailure, hPosition⟩
  refine ⟨hTokens, hFailure, ?_, ?_⟩
  · rw [hPosition, hLength, Nat.add_comm]
  · intro e hFails
    rcases Scanner.failure_drain hFails with ⟨_, rfl⟩
    rfl

end Session

end MathScan
