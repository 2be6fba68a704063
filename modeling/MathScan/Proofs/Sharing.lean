import MathScan.Proofs.Cursor
import MathScan.Proofs.Partition

/-
  Readers of one scanner. Reads of the next token, reads of
  all tokens and iterators share the cursor: in whatever order
  they are asked, they give the tokens of a single drain, each
  of them once. Only an error in a read of all tokens loses
  the tokens that this read has met. Once the end is reached
  or an error is told, nothing but the end is told.

  Key definitions include:
    * `Request.OnlyRead`
    * `Request.AnsweredBy`
    * `Session.Answered`
    * `Session.Closes`
    * `Session.given`
    * `Session.raised`
    * `Session.lost`
    * `Session.ReadStep`
    * `Session.EndedAtEnd`
    * `Session.ReadsOnce`

  The key statements are:
    * `Session.step_readStep`
    * `Session.drain_run`
    * `Session.run_closes`
    * `Session.run_readsOnce`
-/

------------------------------------------------------------
-- Requests That Only Read
------------------------------------------------------------

namespace MathScan

namespace Request

/-
  Whether a request reads tokens, or makes a reader of them,
  where some iterators have been made before.
-/
def reads
    (made : Nat) : Request → Bool
  | next => true
  | tokenize => true
  | newIterator => true
  | advanceIterator index => index < made
  | _ => false

def makes : Request → Nat
  | newIterator => 1
  | _ => 0

/- Whether requests in a row only read tokens. -/
def OnlyRead
    (made : Nat) : List Request → Prop
  | [] => True
  | request :: more =>
    request.reads made = true ∧
      OnlyRead (made + request.makes) more

instance OnlyRead.decidable
    (made : Nat) :
    (requests : List Request) →
      Decidable (OnlyRead made requests)
  | [] => isTrue trivial
  | request :: more =>
    have := decidable (made + request.makes) more
    inferInstanceAs
      (Decidable
        (request.reads made = true ∧
          OnlyRead (made + request.makes) more))

/- Whether a request is for the next token, by any reader. -/
def readsNext : Request → Bool
  | next => true
  | advanceIterator _ => true
  | _ => false

/-
  The answers that a request to read may have, where some
  iterators have been made before: a read of the next token
  gives a token or tells the end, a read of all tokens gives
  some, and both may tell an error; a new iterator gets the
  first index that is free.
-/
inductive AnsweredBy
    (made : Nat) : Request → Except ScanError Answer → Prop where
  | made :
      AnsweredBy made .newIterator (.ok (.iterator made))
  | next
      {request : Request}
      (hNext : request.readsNext = true)
      (found : Option Token) :
      AnsweredBy made request (.ok (.token found))
  | nextError
      {request : Request}
      (hNext : request.readsNext = true)
      (e : ScanError) :
      AnsweredBy made request (.error e)
  | all
      (found : List Token) :
      AnsweredBy made .tokenize (.ok (.tokens found))
  | allError
      (e : ScanError) :
      AnsweredBy made .tokenize (.error e)

end Request

------------------------------------------------------------
-- What Is Given, Raised and Lost
------------------------------------------------------------

namespace Session

/-
  Whether requests in a row have one answer each, of the kind
  that they ask for.
-/
inductive Answered :
    Nat → List Request → List Reply → Prop where
  | nil
      {made : Nat} :
      Answered made [] []
  | cons
      {made : Nat}
      {request : Request}
      {reply : Reply}
      {more : List Request}
      {later : List Reply}
      (hReply : request.AnsweredBy made reply.answer)
      (hMore : Answered (made + request.makes) more later) :
      Answered made (request :: more) (reply :: later)

/- The tokens that are given by an answer. -/
def given : Except ScanError Answer → List Token
  | .ok (.token (some t)) => [t]
  | .ok (.tokens ts) => ts
  | _ => []

/- The errors that are told by an answer. -/
def raised : Except ScanError Answer → List ScanError
  | .error e => [e]
  | .ok _ => []

/- Whether an answer tells that nothing is left. -/
def tellsEnd : Except ScanError Answer → Bool
  | .ok (.token none) => true
  | .ok (.tokens []) => true
  | _ => false

/-
  Whether an answer is the last one before the end: it tells
  the end, or gives all tokens that are left, or is an error.
-/
inductive Closes : Except ScanError Answer → Prop where
  | ended :
      Closes (.ok (.token none))
  | all
      (found : List Token) :
      Closes (.ok (.tokens found))
  | error
      (e : ScanError) :
      Closes (.error e)

/- Whether a request, if not for an iterator, is told the end. -/
def idle
    (request : Request)
    (answer : Except ScanError Answer) : Prop :=
  request = .newIterator ∨ tellsEnd answer = true

/-
  The tokens that are lost by an answer: those which a read of
  all tokens has met before its error.
-/
def dropped
    (session : Session) :
    Request → Except ScanError Answer → List Token
  | .tokenize, .error _ => session.scanner.drain.tokens
  | _, _ => []

/- The tokens that are lost by requests in a row. -/
def lost
    (session : Session) : List Request → List Token
  | [] => []
  | request :: more =>
    session.dropped request (session.step request).1 ++
      (session.step request).2.lost more

/-
  What a request that only reads comes to: a new iterator is
  made, the next token is read, or all tokens are read.
-/
inductive ReadStep
    (session : Session) :
    Request → Except ScanError Answer × Scanner → Prop where
  | made :
      ReadStep session .newIterator
        (.ok (.iterator session.iterators.length),
          session.scanner)
  | one
      {request : Request}
      (hNext : request.readsNext = true) :
      ReadStep session request
        (session.scanner.next.1.map .token,
          session.scanner.next.2)
  | all :
      ReadStep session .tokenize
        (session.scanner.tokenize.1.map .tokens,
          session.scanner.tokenize.2)

/- Iterators have come to an end only where nothing is left. -/
def EndedAtEnd
    (session : Session) : Prop :=
  false ∈ session.iterators → session.scanner.rest = []

end Session

end MathScan

------------------------------------------------------------
-- Drains and the Next Token
------------------------------------------------------------

namespace MathScan

/- Each token of some pieces has a character. -/
theorem Piece.covers_of_mem_tokens
    {mode : NumberMode}
    {place : Nat → Location}
    (hPlace : ∀ n, (place n).offset = n)
    {offset : Nat}
    {ps : List (Piece mode)}
    {t : Token}
    (hMem : t ∈ tokens place offset ps) :
    ∃ i : Nat, t.Covers i := by
  induction ps generalizing offset with
  | nil => exact absurd hMem List.not_mem_nil
  | cons p ps ih =>
      rcases List.mem_cons.mp hMem with rfl | hLater
      · have hSome :=
          List.length_pos_iff.mpr p.token_wellFormed.chars_ne_nil
        rw [Token.length_chars] at hSome
        refine ⟨offset + p.gap.length, ?_⟩
        rw [Token.covers_placed, hPlace]
        omega
      · exact ih hLater

namespace Scanner

variable {s : Scanner}

theorem rest_advance_length
    (s : Scanner) :
    (s.advance s.rest.length).rest = [] :=
  List.drop_length

/- A drain at the end gives nothing and moves nothing. -/
theorem drain_of_rest_eq_nil
    (hRest : s.rest = []) :
    s.drain = ⟨[], none, s⟩ :=
  drain_of_next_none (next_of_rest_eq_nil hRest)

theorem tokenize_of_rest_eq_nil
    (hRest : s.rest = []) :
    s.tokenize = (.ok [], s) := by
  rw [tokenize_eq, drain_of_rest_eq_nil hRest, hRest,
    List.length_nil, advance_zero]

/-
  A drain gives what the next read gives, and then what a
  drain gives from there.
-/
theorem drain_next
    (s : Scanner) :
    s.drain.tokens =
        Session.given (s.next.1.map .token) ++
          s.next.2.drain.tokens ∧
      s.drain.failure.toList =
        Session.raised (s.next.1.map .token) ++
          s.next.2.drain.failure.toList := by
  have hOutcome := s.next_outcome
  have hEnd := drain_of_rest_eq_nil (rest_advance_length s)
  generalize hNext : s.next = reply at hOutcome ⊢
  cases hOutcome with
  | nothing hBlank =>
      rw [drain_of_next_none hNext, hEnd]
      exact ⟨rfl, rfl⟩
  | token hWidth =>
      rw [drain_of_next_token hNext]
      exact ⟨rfl, rfl⟩
  | unclosed =>
      rw [drain_of_next_error hNext, hEnd]
      exact ⟨rfl, rfl⟩

/- A read that gives no token leaves nothing. -/
theorem rest_next_of_gaveToken_eq_false
    (hNone : Session.gaveToken s.next.1 = false) :
    s.next.2.rest = [] := by
  have hOutcome := s.next_outcome
  generalize s.next = reply at hOutcome hNone ⊢
  cases hOutcome with
  | nothing hBlank => exact rest_advance_length s
  | token hWidth => cases hNone
  | unclosed => exact rest_advance_length s

/- No token is given twice by a drain. -/
theorem nodup_drain
    (s : Scanner) :
    s.drain.tokens.Nodup := by
  rcases nonempty_reading s.mode s.rest with ⟨r⟩
  rw [drain_reading rfl rfl r]
  have hDisjoint :=
    Piece.pairwise_tokens (offset_place s) s.position
      r.layout.pieces
  apply hDisjoint.imp_of_mem
  intro t u hFirst _ hApart hSame
  rcases Piece.covers_of_mem_tokens (offset_place s) hFirst
    with ⟨i, hCovers⟩
  exact hApart i hCovers (hSame ▸ hCovers)

end Scanner

end MathScan

------------------------------------------------------------
-- Steps That Only Read
------------------------------------------------------------

namespace MathScan

namespace Session

variable {session : Session} {request : Request}

/-
  A request that only reads comes to no more than a read. An
  iterator that has ended is no exception: where nothing is
  left, a read of the next token tells the end as well.
-/
theorem step_readStep
    (hReads : request.reads session.iterators.length = true)
    (hEnded : session.EndedAtEnd) :
    session.ReadStep request
      ((session.step request).1,
        (session.step request).2.scanner) := by
  cases request with
  | next => exact .one rfl
  | tokenize => exact .all
  | newIterator => exact .made
  | advanceIterator index =>
      have hMade : index < session.iterators.length :=
        of_decide_eq_true hReads
      have hStep :
          session.ReadStep (.advanceIterator index)
            (session.scanner.next.1.map .token,
              session.scanner.next.2) :=
        .one rfl
      rw [step, advanceIterator, List.getD_eq_getElem?_getD,
        List.getElem?_eq_getElem hMade, Option.getD_some]
      by_cases hLive : session.iterators[index] = true
      · rw [if_pos hLive]
        exact hStep
      · have hRest : session.scanner.rest = [] := by
          apply hEnded
          rw [← Bool.eq_false_iff.mpr hLive]
          exact List.getElem_mem hMade
        rw [if_neg hLive]
        rw [Scanner.next_of_rest_eq_nil hRest] at hStep
        exact hStep
  | _ => cases hReads

/- Iterators are made by the requests for them alone. -/
theorem length_iterators_step
    (session : Session)
    (request : Request) :
    (session.step request).2.iterators.length =
      session.iterators.length + request.makes := by
  cases request with
  | newIterator =>
      simp [step, Request.makes]
  | advanceIterator index =>
      rw [step, advanceIterator]
      split
      · simp [answered, Request.makes]
      · rfl
  | _ => rfl

/- A scanner with nothing left stays where it is. -/
theorem scanner_readStep_at_end
    {reply : Except ScanError Answer × Scanner}
    (hStep : session.ReadStep request reply)
    (hRest : session.scanner.rest = []) :
    reply.2 = session.scanner := by
  cases hStep with
  | made => rfl
  | one hNext => rw [Scanner.next_of_rest_eq_nil hRest]
  | all => rw [Scanner.tokenize_of_rest_eq_nil hRest]

/- An iterator that ends by a step ends where nothing is left. -/
theorem endedAtEnd_step
    (hReads : request.reads session.iterators.length = true)
    (hEnded : session.EndedAtEnd) :
    (session.step request).2.EndedAtEnd := by
  have hStep := step_readStep hReads hEnded
  intro hSome
  by_cases hOld : false ∈ session.iterators
  · have hRest := hEnded hOld
    have hSame := scanner_readStep_at_end hStep hRest
    rw [← hRest]
    exact congrArg Scanner.rest hSame
  · cases request with
    | next => exact absurd hSome hOld
    | tokenize => exact absurd hSome hOld
    | newIterator =>
        simp only [step, List.mem_append, List.mem_singleton,
          Bool.false_eq_true, or_false] at hSome
        exact absurd hSome hOld
    | advanceIterator index =>
        rw [step, advanceIterator] at hSome ⊢
        split at hSome
        · rename_i hLive
          rw [if_pos hLive]
          rcases List.mem_or_eq_of_mem_set hSome with
            hBefore | hNow
          · exact absurd hBefore hOld
          · exact
              Scanner.rest_next_of_gaveToken_eq_false hNow.symm
        · exact absurd hSome hOld
    | _ => cases hReads

/- A read of the next token loses none. -/
theorem dropped_of_readsNext
    (hNext : request.readsNext = true)
    (answer : Except ScanError Answer) :
    session.dropped request answer = [] := by
  cases request with
  | tokenize => cases hNext
  | _ => rfl

section

variable {reply : Except ScanError Answer × Scanner}

/-
  What a drain gives and tells is what a step gives and tells,
  and then what a drain does from there, but for the tokens
  that are lost in between.
-/
theorem drain_readStep
    (hStep : session.ReadStep request reply) :
    session.scanner.drain.tokens =
        given reply.1 ++ session.dropped request reply.1 ++
          reply.2.drain.tokens ∧
      session.scanner.drain.failure.toList =
        raised reply.1 ++ reply.2.drain.failure.toList := by
  cases hStep with
  | made => exact ⟨rfl, rfl⟩
  | one hNext =>
      rw [dropped_of_readsNext hNext, List.append_nil]
      exact Scanner.drain_next session.scanner
  | all =>
      have hEnd := Scanner.drain_of_rest_eq_nil
        (Scanner.rest_advance_length session.scanner)
      rw [Scanner.tokenize_eq, hEnd, List.append_nil]
      cases hFailure : session.scanner.drain.failure with
      | none => exact ⟨(List.append_nil _).symm, rfl⟩
      | some e => exact ⟨rfl, rfl⟩

/- Nothing is left behind the last answer before the end. -/
theorem rest_readStep_of_closes
    (hStep : session.ReadStep request reply)
    (hCloses : Closes reply.1) :
    reply.2.rest = [] := by
  cases hStep with
  | made => cases hCloses
  | one hNext =>
      apply Scanner.rest_next_of_gaveToken_eq_false
      cases hAnswer : session.scanner.next.1 with
      | error e => rfl
      | ok found =>
          rw [hAnswer] at hCloses
          cases hCloses
          rfl
  | all =>
      rw [Scanner.tokenize_eq]
      exact Scanner.rest_advance_length session.scanner

/- Where tokens are lost, nothing is left. -/
theorem dropped_eq_nil_or
    (hStep : session.ReadStep request reply) :
    session.dropped request reply.1 = [] ∨
      reply.2.rest = [] := by
  cases hStep with
  | made => exact .inl rfl
  | one hNext => exact .inl (dropped_of_readsNext hNext _)
  | all =>
      rw [Scanner.tokenize_eq]
      exact .inr (Scanner.rest_advance_length session.scanner)

/-
  An iterator tells that it has come to its end only where
  there are no more than blanks.
-/
theorem blank_readStep_of_none
    {index : Nat}
    (hStep : session.ReadStep (.advanceIterator index) reply)
    (hNone : reply.1 = .ok (.token none)) :
    Text.Blank session.scanner.rest := by
  cases hStep with
  | one hNext =>
      have hOutcome := session.scanner.next_outcome
      generalize session.scanner.next = found
        at hOutcome hNone
      cases hOutcome with
      | nothing hBlank => exact hBlank
      | token hWidth => cases hNone
      | unclosed => cases hNone

theorem answeredBy_readStep
    (hStep : session.ReadStep request reply) :
    request.AnsweredBy session.iterators.length reply.1 := by
  cases hStep with
  | made => exact .made
  | one hNext =>
      cases session.scanner.next.1 with
      | error e => exact .nextError hNext e
      | ok found => exact .next hNext found
  | all =>
      cases session.scanner.tokenize.1 with
      | error e => exact .allError e
      | ok found => exact .all found

/- Where nothing is left, no more than the end is told. -/
theorem idle_readStep_at_end
    (hStep : session.ReadStep request reply)
    (hRest : session.scanner.rest = []) :
    idle request reply.1 := by
  cases hStep with
  | made => exact .inl rfl
  | one hNext =>
      rw [Scanner.next_of_rest_eq_nil hRest]
      exact .inr rfl
  | all =>
      rw [Scanner.tokenize_of_rest_eq_nil hRest]
      exact .inr rfl

end

end Session

end MathScan

------------------------------------------------------------
-- Runs That Only Read
------------------------------------------------------------

namespace MathScan

namespace Session

variable {session : Session} {requests : List Request}

/-
  A drain gives and tells what a run gives and tells, and then
  what a drain does from there, but for the tokens that are
  lost on the way.
-/
theorem drain_run
    (hReads : Request.OnlyRead session.iterators.length requests)
    (hEnded : session.EndedAtEnd) :
    session.scanner.drain.tokens =
        (session.run requests).flatMap (given ·.answer) ++
          session.lost requests ++
          (session.after requests).scanner.drain.tokens ∧
      session.scanner.drain.failure.toList =
        (session.run requests).flatMap (raised ·.answer) ++
          (session.after requests).scanner.drain.failure.toList
    := by
  induction requests generalizing session with
  | nil => exact ⟨rfl, rfl⟩
  | cons request more ih =>
      have hStep := step_readStep hReads.1 hEnded
      rcases drain_readStep hStep with ⟨hTokens, hFailure⟩
      have hMore := hReads.2
      rw [← length_iterators_step] at hMore
      rcases ih hMore (endedAtEnd_step hReads.1 hEnded) with
        ⟨hTokensMore, hFailureMore⟩
      rw [run, List.flatMap_cons, List.flatMap_cons, lost,
        after_cons]
      constructor
      · rcases dropped_eq_nil_or hStep with hNone | hRest
        · rw [hTokens, hNone, hTokensMore]
          simp only [List.append_assoc, List.nil_append]
        · -- nothing is left, so that nothing more is given
          have hEnd := Scanner.drain_of_rest_eq_nil hRest
          rw [hEnd, eq_comm, List.append_eq_nil_iff,
            List.append_eq_nil_iff] at hTokensMore
          rcases hTokensMore with ⟨⟨hGiven, hLost⟩, hLeft⟩
          rw [hTokens, hEnd, hGiven, hLost, hLeft]
          simp only [List.append_nil]
      · rw [hFailure, hFailureMore, List.append_assoc]

/-
  Where nothing is left, a run tells no more than the end, and
  its cursor stays.
-/
theorem run_at_end
    (hReads : Request.OnlyRead session.iterators.length requests)
    (hEnded : session.EndedAtEnd)
    (hRest : session.scanner.rest = []) :
    ∀ asked ∈ requests.zip (session.run requests),
      asked.2.position = session.scanner.position ∧
        idle asked.1 asked.2.answer := by
  induction requests generalizing session with
  | nil => exact List.forall_mem_nil _
  | cons request more ih =>
      have hStep := step_readStep hReads.1 hEnded
      have hSame :
          (session.step request).2.scanner = session.scanner :=
        scanner_readStep_at_end hStep hRest
      have hMore := hReads.2
      rw [← length_iterators_step] at hMore
      have hLater :=
        ih hMore (endedAtEnd_step hReads.1 hEnded)
          (hSame ▸ hRest)
      intro asked hMem
      rcases List.mem_cons.mp hMem with rfl | hIn
      · exact ⟨congrArg Scanner.position hSame,
          idle_readStep_at_end hStep hRest⟩
      · rw [← hSame]
        exact hLater asked hIn

/- Each request of a run has an answer of its kind. -/
theorem answered_run
    (hReads : Request.OnlyRead session.iterators.length requests)
    (hEnded : session.EndedAtEnd) :
    Answered session.iterators.length requests
      (session.run requests) := by
  induction requests generalizing session with
  | nil => exact .nil
  | cons request more ih =>
      have hReply :=
        answeredBy_readStep (step_readStep hReads.1 hEnded)
      have hMore := hReads.2
      rw [← length_iterators_step] at hMore
      have hLater := ih hMore (endedAtEnd_step hReads.1 hEnded)
      rw [length_iterators_step] at hLater
      exact .cons hReply hLater

/-
  After the last answer before the end, the cursor of a run is
  at the end of the source and stays there, and no later answer
  tells more than the end.
-/
theorem run_closes
    (hReads : Request.OnlyRead session.iterators.length requests)
    (hEnded : session.EndedAtEnd)
    (hWithin :
      session.scanner.position ≤
        session.scanner.source.length) :
    (∀ reply ∈ session.run requests, Closes reply.answer →
      reply.position = session.scanner.source.length) ∧
      (requests.zip (session.run requests)).Pairwise
        fun asked later =>
          Closes asked.2.answer →
            later.2.position = session.scanner.source.length ∧
              idle later.1 later.2.answer := by
  induction requests generalizing session with
  | nil => exact ⟨List.forall_mem_nil _, .nil⟩
  | cons request more ih =>
      have hStep := step_readStep hReads.1 hEnded
      have hMoved := step_moved session request
      have hMore := hReads.2
      rw [← length_iterators_step] at hMore
      have hEndedMore := endedAtEnd_step hReads.1 hEnded
      have hWithinMore := hMoved.within hWithin
      rw [← hMoved.source_eq] at hWithinMore ⊢
      rcases ih hMore hEndedMore hWithinMore with
        ⟨hPlaces, hPairs⟩
      have hAtEnd :
          Closes (session.step request).1 →
            (session.step request).2.scanner.rest = [] ∧
              (session.step request).2.scanner.position =
                (session.step request).2.scanner.source.length
          := by
        intro hCloses
        have hRest := rest_readStep_of_closes hStep hCloses
        exact ⟨hRest,
          (Scanner.rest_eq_nil_iff hWithinMore).mp hRest⟩
      constructor
      · intro reply hMem hCloses
        rcases List.mem_cons.mp hMem with rfl | hIn
        · exact (hAtEnd hCloses).2
        · exact hPlaces reply hIn hCloses
      · apply List.pairwise_cons.mpr
        refine ⟨?_, hPairs⟩
        intro later hIn hCloses
        rcases hAtEnd hCloses with ⟨hRest, hPosition⟩
        rcases run_at_end hMore hEndedMore hRest later hIn with
          ⟨hStays, hIdle⟩
        exact ⟨hStays.trans hPosition, hIdle⟩

/- What holds of a session before one of the requests. -/
theorem reads_after
    {request : Request}
    {before more : List Request}
    (hReads :
      Request.OnlyRead session.iterators.length
        (before ++ request :: more))
    (hEnded : session.EndedAtEnd) :
    request.reads
        (session.after before).iterators.length = true ∧
      (session.after before).EndedAtEnd := by
  induction before generalizing session with
  | nil => exact ⟨hReads.1, hEnded⟩
  | cons first before ih =>
      have hMore := hReads.2
      rw [← length_iterators_step] at hMore
      rw [after_cons]
      exact ih hMore (endedAtEnd_step hReads.1 hEnded)

/-
  What requests that only read come to, one after another:

  Each has one answer, of the kind that it asks for. The
  answers give the tokens of a drain, in order and each of them
  once. Missing are those that a read of all tokens has met
  before its error, and those that are still to be read. At
  most one of the answers is an error, which is that of the
  drain. An iterator tells that it has come to its end only
  where there are no more than blanks. After an answer that
  tells the end, gives all tokens, or is an error, the cursor
  is at the end of the source, and no later answer tells more
  than the end.
-/
structure ReadsOnce
    (start : Scanner)
    (requests : List Request) : Prop where
  answered :
    Answered 0 requests ((ofScanner start).run requests)
  tokens_eq :
    start.drain.tokens =
      ((ofScanner start).run requests).flatMap
          (given ·.answer) ++
        (ofScanner start).lost requests ++
        ((ofScanner start).after requests).scanner.drain.tokens
  tokens_nodup :
    start.drain.tokens.Nodup
  raised_length_le :
    (((ofScanner start).run requests).flatMap
      (raised ·.answer)).length ≤ 1
  raised_of_mem :
    ∀ reply ∈ (ofScanner start).run requests,
      ∀ e, reply.answer = .error e →
        start.drain.failure = some e ∧ e.code = some "L002"
  blank_of_exhausted :
    ∀ before index more,
      requests = before ++ .advanceIterator index :: more →
        (((ofScanner start).after before).step
          (.advanceIterator index)).1 = .ok (.token none) →
        Text.Blank (start.source.drop
          ((ofScanner start).after before).scanner.position)
  position_of_closes :
    ∀ reply ∈ (ofScanner start).run requests,
      Closes reply.answer →
        reply.position = start.source.length
  idle_of_closes :
    (requests.zip ((ofScanner start).run requests)).Pairwise
      fun asked later =>
        Closes asked.2.answer →
          later.2.position = start.source.length ∧
            idle later.1 later.2.answer

/-
  Any readers of one source share it: each token is given
  once, whoever asks for it.
-/
theorem run_readsOnce
    (source : List Char)
    (filename : String)
    (mode : NumberMode)
    (requests : List Request)
    (hReads : Request.OnlyRead 0 requests) :
    ReadsOnce (.ofChars source filename mode) requests := by
  let start := Scanner.ofChars source filename mode
  have hEnded : (ofScanner start).EndedAtEnd := by
    intro hSome
    exact absurd hSome List.not_mem_nil
  have hReadsHere :
      Request.OnlyRead (ofScanner start).iterators.length
        requests := hReads
  rcases drain_run hReadsHere hEnded with ⟨hTokens, hFailure⟩
  rcases run_closes hReadsHere hEnded (Nat.zero_le _) with
    ⟨hPlaces, hPairs⟩
  refine
    { answered := answered_run hReadsHere hEnded
      tokens_eq := hTokens
      tokens_nodup := start.nodup_drain
      raised_length_le := ?_
      raised_of_mem := ?_
      blank_of_exhausted := ?_
      position_of_closes := hPlaces
      idle_of_closes := hPairs }
  · have hLength := congrArg List.length hFailure
    have hOne : start.drain.failure.toList.length ≤ 1 :=
      Option.length_toList_le
    rw [List.length_append] at hLength
    exact (Nat.le_add_right _ _).trans (hLength ▸ hOne)
  · intro reply hMem e hError
    have hRaised : e ∈ start.drain.failure.toList := by
      have hTold : e ∈ raised reply.answer := by
        rw [hError]
        exact List.mem_singleton_self e
      change e ∈ (ofScanner start).scanner.drain.failure.toList
      rw [hFailure]
      exact List.mem_append_left _
        (List.mem_flatMap_of_mem hMem hTold)
    have hFails := Option.mem_toList.mp hRaised
    rcases Scanner.failure_drain hFails with ⟨place, rfl⟩
    exact ⟨hFails, rfl⟩
  · intro before index more hSplit hNone
    rw [hSplit] at hReadsHere
    rcases reads_after hReadsHere hEnded with
      ⟨hRequest, hEndedHere⟩
    have hBlank := blank_readStep_of_none
      (step_readStep hRequest hEndedHere) hNone
    rw [Scanner.rest_eq, (after_moved _ before).source_eq]
      at hBlank
    exact hBlank

/-
  Two iterators that take turns with other reads, in a text
  that ends in a string without an end.
-/
theorem run_readsOnce_two_iterators :
    let requests : List Request :=
      [.newIterator, .advanceIterator 0, .newIterator,
        .advanceIterator 1, .next, .tokenize,
        .advanceIterator 0]
    Request.OnlyRead 0 requests ∧
      ReadsOnce
        (.ofChars "a 12; \"b\" c \"d".toList "text" .greedy)
        requests :=
  ⟨by decide, run_readsOnce _ _ _ _ (by decide)⟩

end Session

end MathScan
