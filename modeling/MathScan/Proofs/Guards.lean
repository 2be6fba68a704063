import MathScan.Proofs.Reading
import MathScan.Token.Builder

/-
  Reading with all checks in place. Each character is asked
  for before it is used, each run must have a first character,
  and each token is made by a builder that may refuse it. No
  check ever fails: what is read is what is read without them.

  Key definitions include:
    * `GuardFault`
    * `Token.build?`
    * `Scanner.passOver`
    * `Scanner.guardedBare`
    * `Scanner.guardedNext`
    * `Scanner.guardedTokenize`

  The key statements are:
    * `Scanner.guardedNext_eq`
    * `Scanner.guardedTokenize_eq`
-/

------------------------------------------------------------
-- Guarded Reads
------------------------------------------------------------

namespace MathScan

/- Why a guarded read stops without an answer. -/
inductive GuardFault where
  /- The scanner reports an error. -/
  | scan (e : ScanError)
  /- A builder refuses its token. -/
  | refused (e : TokenError)
  /- A run has no first character. -/
  | emptyRun

/- The token of a lexeme, from a builder that may refuse it. -/
def Token.build?
    (kind : TokenKind)
    (lexeme : String)
    (place : Location) : Except TokenError Token :=
  match kind with
  | .symbol => Token.symbol? lexeme (some place)
  | .number =>
    Token.number? (.text lexeme) (some lexeme) (some place)
  | kind => .ok ⟨kind, lexeme, .text lexeme, some place⟩

namespace Scanner

theorem length_rest_advance_one
    {s : Scanner}
    (hMore : ¬ s.atEnd = true) :
    (s.advance 1).rest.length < s.rest.length := by
  have hSome : 0 < s.rest.length := by
    simpa [atEnd, List.length_pos_iff] using hMore
  rw [length_rest_advance]
  omega

/-
  Moves the cursor over all characters of a class. Each of
  them is asked for.
-/
def passOver
    (p : Char → Bool)
    (s : Scanner) : Except ScanError Scanner :=
  if hEnd : s.atEnd then
    .ok s
  else
    have := length_rest_advance_one hEnd
    match s.peek with
    | .error e => .error e
    | .ok c => if p c then (s.advance 1).passOver p else .ok s
termination_by s.rest.length

/-
  Reads a symbol, a number or a name: cuts the run out of the
  source, takes a terminator off its end unless it stands
  alone, and has the token at its front built.
-/
def guardedBare
    (s : Scanner) : Except GuardFault Token × Scanner :=
  match s.passOver continuesRun with
  | .error e => (.error (.scan e), s)
  | .ok u =>
    let whole :=
      (s.source.drop s.position).take (u.position - s.position)
    let run :=
      if 1 < whole.length ∧ whole.getLast? = some terminator then
        whole.dropLast
      else
        whole
    match run with
    | [] => (.error .emptyRun, u)
    | first :: more =>
      let (kind, lexeme) := frontLexeme s.mode first more
      ((Token.build? kind (String.ofList lexeme) s.here).mapError
          .refused,
        s.advance lexeme.length)

/- Reads the next token, with every check in place. -/
def guardedNext
    (s : Scanner) : Except GuardFault (Option Token) × Scanner :=
  match s.passOver Text.isBlank with
  | .error e => (.error (.scan e), s)
  | .ok u =>
    if u.atEnd then
      (.ok none, u)
    else
      match u.peek with
      | .error e => (.error (.scan e), u)
      | .ok c =>
        if c = quote then
          ((u.readString.1.mapError .scan).map some,
            u.readString.2)
        else
          (u.guardedBare.1.map some, u.guardedBare.2)

end Scanner

end MathScan

------------------------------------------------------------
-- Checks That Pass
------------------------------------------------------------

namespace MathScan

theorem isSymbolText_ofList
    {c : Char}
    (hSymbol : isSymbol c = true) :
    isSymbolText (String.ofList [c]) = true := by
  apply List.any_eq_true.mpr
  exact ⟨c, List.contains_iff_mem.mp hSymbol, by simp⟩

theorem Double.ofArgument?_text
    {text : String}
    {x : Double}
    (hRead : read? text.toList = some x) :
    ofArgument? (.text text) = .ok x := by
  unfold ofArgument?
  simp only [hRead]

/- Digits stand for the double that they are read as. -/
theorem Double.ofArgument?_digits
    {ds : List Char}
    (hNonempty : ds ≠ [])
    (hDigits : ∀ d ∈ ds, d.isDigit = true) :
    ofArgument? (.text (String.ofList ds)) =
      .ok (ofNat (Nat.ofDigitChars 10 ds 0)) := by
  have hRead := read?_digits hNonempty hDigits
  rw [← String.toList_ofList (l := ds)] at hRead
  rw [ofArgument?_text hRead, String.toList_ofList]

theorem Token.number?_digits
    {ds : List Char}
    (hNonempty : ds ≠ [])
    (hDigits : ∀ d ∈ ds, d.isDigit = true)
    (place : Option Location) :
    number? (.text (String.ofList ds))
        (some (String.ofList ds)) place =
      .ok (ofNumber (.ofNat (Nat.ofDigitChars 10 ds 0))
        (String.ofList ds) place) := by
  rw [number?, Double.ofArgument?_digits hNonempty hDigits,
    Except.map, Option.getD_some]

/- The builders accept every lexeme at the front of a run. -/
theorem Token.build?_frontLexeme
    (mode : NumberMode)
    (first : Char)
    (more : List Char)
    (place : Location) :
    build? (frontLexeme mode first more).1
        (String.ofList (frontLexeme mode first more).2) place =
      .ok (Scanner.bareToken (frontLexeme mode first more).1
        (frontLexeme mode first more).2 place) := by
  unfold frontLexeme
  by_cases hSymbol : isSymbol first = true
  · simp only [hSymbol, if_true, build?, Token.symbol?,
      isSymbolText_ofList hSymbol]
    rfl
  · by_cases hDigit : first.isDigit = true
    · have hDigits :
          ∀ d ∈ first :: moreDigits more mode,
            d.isDigit = true := by
        intro d hMem
        rcases List.mem_cons.mp hMem with rfl | hMore
        · exact hDigit
        · cases mode with
          | singleDigit => exact absurd hMore List.not_mem_nil
          | greedy => exact List.mem_takeWhile_imp hMore
      simp only [hSymbol, hDigit, if_true, if_false,
        Bool.false_eq_true, build?, Scanner.bareToken]
      exact number?_digits (List.cons_ne_nil _ _) hDigits
        (some place)
    · simp only [hSymbol, hDigit, if_false,
        Bool.false_eq_true]
      rfl

namespace Scanner

variable {s : Scanner}

theorem peek_of_rest_eq_cons
    {c : Char}
    {more : List Char}
    (hRest : s.rest = c :: more) :
    s.peek = .ok c := by
  rw [peek, hRest]

/- No character that is passed over lies past the end. -/
theorem passOver_eq
    (p : Char → Bool)
    (s : Scanner) :
    s.passOver p =
      .ok (s.advance (s.rest.takeWhile p).length) := by
  induction hRest : s.rest generalizing s with
  | nil =>
      have hEnd : s.atEnd = true := by
        simp [atEnd, hRest]
      rw [passOver, dif_pos hEnd, List.takeWhile_nil,
        List.length_nil, advance_zero]
  | cons c more ih =>
      have hEnd : ¬ s.atEnd = true := by
        simp [atEnd, hRest]
      have hNext : (s.advance 1).rest = more := by
        rw [rest_advance, hRest, List.drop_one, List.tail_cons]
      rw [passOver, dif_neg hEnd, peek_of_rest_eq_cons hRest]
      by_cases hClass : p c = true
      · simp only [hClass, if_true,
          List.takeWhile_cons_of_pos, List.length_cons]
        rw [ih (s.advance 1) hNext, advance_advance,
          Nat.add_comm]
      · simp only [hClass, List.takeWhile_cons_of_neg,
          not_false_eq_true, List.length_nil, if_false,
          Bool.false_eq_true, advance_zero]

/-
  A run is its first character and what the terminator is
  taken off from: one that stands alone is no run's end.
-/
theorem detach_cons
    (c : Char)
    (more : List Char) :
    (if 1 < (c :: more).length ∧
          (c :: more).getLast? = some terminator then
        (c :: more).dropLast
      else
        c :: more) =
      c :: detachTerminator more := by
  cases more with
  | nil => simp [detachTerminator]
  | cons d rest =>
      have hLong : 1 < (c :: d :: rest).length := by
        simp
      simp only [hLong, true_and, List.getLast?_cons_cons,
        detachTerminator, List.dropLast_cons_cons]
      split
      · rfl
      · rfl

/- All checks on a symbol, a number or a name pass. -/
theorem guardedBare_eq
    {c : Char}
    {more : List Char}
    (hRest : s.rest = c :: more)
    (hBlank : Text.isBlank c = false) :
    s.guardedBare =
      (.ok (s.readBare c more).1, (s.readBare c more).2) := by
  have hClass : continuesRun c = true := by
    simp [continuesRun, hBlank]
  have hRun :
      (s.source.drop s.position).take
          ((s.advance
              (s.rest.takeWhile continuesRun).length).position -
            s.position) =
        c :: more.takeWhile continuesRun := by
    rw [position_advance, Nat.add_sub_cancel_left, ← s.rest_eq,
      ← List.prefix_iff_eq_take.mp
        (List.takeWhile_prefix continuesRun),
      hRest, List.takeWhile_cons_of_pos hClass]
  simp only [guardedBare, passOver_eq, hRun, detach_cons,
    readBare, Token.build?_frontLexeme]
  rfl

/- What is left behind blanks that are skipped. -/
theorem rest_skipBlanks
    (s : Scanner) :
    s.skipBlanks.rest = s.rest.dropWhile Text.isBlank := by
  have hSplit :
      s.rest.takeWhile Text.isBlank ++
        s.rest.dropWhile Text.isBlank = s.rest :=
    List.takeWhile_append_dropWhile
  calc
    s.skipBlanks.rest =
        (s.rest.takeWhile Text.isBlank ++
          s.rest.dropWhile Text.isBlank).drop
            (s.rest.takeWhile Text.isBlank).length := by
      rw [hSplit]
      rfl
    _ = s.rest.dropWhile Text.isBlank := List.drop_left

/-
  All checks of a read pass. It comes to the same answer as a
  read without them, and leaves the cursor at the same place.
-/
theorem guardedNext_eq
    (s : Scanner) :
    s.guardedNext =
      (s.next.1.mapError .scan, s.next.2) := by
  have hSkip :
      s.passOver Text.isBlank = .ok s.skipBlanks :=
    passOver_eq Text.isBlank s
  have hDrop := rest_skipBlanks s
  rw [guardedNext, hSkip, next]
  generalize s.skipBlanks = u at hDrop ⊢
  cases hRest : u.rest with
  | nil => simp [readToken, atEnd, hRest, Except.mapError]
  | cons c more =>
      have hHead : c ∈ (s.rest.dropWhile Text.isBlank).head? := by
        rw [← hDrop, hRest]
        rfl
      have hBlank := head?_dropWhile_eq_false hHead
      have hEnd : ¬ u.atEnd = true := by
        simp [atEnd, hRest]
      simp only [hEnd, if_false, Bool.false_eq_true,
        peek_of_rest_eq_cons hRest, readToken, hRest]
      by_cases hQuote : c = quote
      · simp only [hQuote, if_true]
        cases u.readString.1 with
        | error e => rfl
        | ok t => rfl
      · simp only [hQuote, if_false,
          guardedBare_eq hRest hBlank]
        rfl

end Scanner

end MathScan

------------------------------------------------------------
-- All Tokens
------------------------------------------------------------

namespace MathScan

namespace Scanner

variable {s u : Scanner}

/- An answer of a read with checks is one of a read without. -/
theorem next_of_guardedNext_ok
    {found : Option Token}
    (hNext : s.guardedNext = (.ok found, u)) :
    s.next = (.ok found, u) := by
  rw [guardedNext_eq, Prod.mk.injEq] at hNext
  rcases hNext with ⟨hAnswer, rfl⟩
  cases hOwn : s.next.1 with
  | error e =>
      rw [hOwn] at hAnswer
      cases hAnswer
  | ok other =>
      rw [hOwn] at hAnswer
      cases hAnswer
      exact Prod.ext hOwn rfl

/- A fault of a read with checks is an error of the scanner. -/
theorem next_of_guardedNext_error
    {fault : GuardFault}
    (hNext : s.guardedNext = (.error fault, u)) :
    ∃ e, fault = .scan e ∧ s.next = (.error e, u) := by
  rw [guardedNext_eq, Prod.mk.injEq] at hNext
  rcases hNext with ⟨hAnswer, rfl⟩
  cases hOwn : s.next.1 with
  | error e =>
      rw [hOwn] at hAnswer
      cases hAnswer
      exact ⟨e, rfl, Prod.ext hOwn rfl⟩
  | ok other =>
      rw [hOwn] at hAnswer
      cases hAnswer

/- Less is left after each token, with every check in place. -/
theorem length_rest_guardedNext
    {t : Token}
    (hNext : s.guardedNext = (.ok (some t), u)) :
    u.rest.length < s.rest.length := by
  have hSame := next_of_guardedNext_ok hNext
  have hLess :=
    s.length_rest_next (congrArg Prod.fst hSame)
  rw [hSame] at hLess
  exact hLess

/- Reads all tokens, with every check in place. -/
def guardedTokenize
    (s : Scanner) : Except GuardFault (List Token) × Scanner :=
  match hNext : s.guardedNext with
  | (.error fault, u) => (.error fault, u)
  | (.ok none, u) => (.ok [], u)
  | (.ok (some t), u) =>
    have := length_rest_guardedNext hNext
    let more := u.guardedTokenize
    (more.1.map (t :: ·), more.2)
termination_by s.rest.length

/- All checks pass at each token up to the last. -/
theorem guardedTokenize_eq
    (s : Scanner) :
    s.guardedTokenize =
      (s.tokenize.1.mapError .scan, s.tokenize.2) := by
  fun_induction guardedTokenize s with
  | case1 s fault u hNext =>
      rcases next_of_guardedNext_error hNext with
        ⟨e, rfl, hSame⟩
      rw [tokenize, drain_of_next_error hSame]
      rfl
  | case2 s u hNext =>
      rw [tokenize,
        drain_of_next_none (next_of_guardedNext_ok hNext)]
      rfl
  | case3 s t u hNext hLess more ih =>
      have hMore : more = _ := ih
      rw [hMore, tokenize, tokenize,
        drain_of_next_token (next_of_guardedNext_ok hNext)]
      cases u.drain.failure with
      | none => rfl
      | some e => rfl

end Scanner

end MathScan
