import MathScan.Proofs.Front

/-
  The next token as a longest match. Behind the longest blanks
  the first character says what is taken: a string up to the
  next quote, one symbol, digits as the mode has it, or else
  the longest name. This is all that a read comes to; the run
  that it looks at, and the terminator at the end of the run,
  cannot be told from it.

  Key definitions include:
    * `Text.LongestPrefix`
    * `FirstToken`
    * `Scanner.LongestMatch`
    * `Scanner.nextBy`

  The key statements are:
    * `Text.longestPrefix_append_iff`
    * `Scanner.longestMatch_iff`
    * `Scanner.nextBy_run`
    * `Scanner.nextBy_wholeRun`
    * `Scanner.next_longestMatch`
-/

------------------------------------------------------------
-- Longest Prefixes
------------------------------------------------------------

namespace MathScan.Text

/-
  Whether characters are the longest ones at the front of a
  text that all have some property.
-/
structure LongestPrefix
    (p : Char → Prop)
    (cs front : List Char) : Prop where
  isPrefix : front <+: cs
  holds : ∀ c ∈ front, p c
  longest :
    ∀ other, other <+: cs → (∀ c ∈ other, p c) →
      other.length ≤ front.length

/-
  A prefix is the longest one of its kind if the character
  behind it, if there is one, is not of the kind.
-/
theorem longestPrefix_append_iff
    {p : Char → Prop}
    {front after : List Char} :
    LongestPrefix p (front ++ after) front ↔
      (∀ c ∈ front, p c) ∧ ∀ c ∈ after.head?, ¬ p c := by
  constructor
  · intro hLongest
    refine ⟨hLongest.holds, ?_⟩
    intro c hHead hHolds
    rcases List.head?_eq_some_iff.mp hHead with ⟨more, rfl⟩
    have hLonger :
        (front ++ [c]).length ≤ front.length := by
      apply hLongest.longest
      · exact ⟨more, by simp⟩
      · intro d hMem
        rcases List.mem_append.mp hMem with hFront | hLast
        · exact hLongest.holds d hFront
        · rw [List.mem_singleton.mp hLast]
          exact hHolds
    rw [List.length_append, List.length_singleton] at hLonger
    omega
  · rintro ⟨hHolds, hStop⟩
    refine ⟨List.prefix_append front after, hHolds, ?_⟩
    intro other hPrefix hOther
    by_contra hLonger
    -- a longer prefix would have the character behind the front
    have hFront : front <+: other :=
      List.prefix_of_prefix_length_le
        (List.prefix_append front after) hPrefix (by omega)
    rcases hFront with ⟨extra, rfl⟩
    cases extra with
    | nil => simp at hLonger
    | cons c extra =>
        have hAfter : c :: extra <+: after :=
          (List.prefix_append_right_inj front).mp hPrefix
        rcases hAfter with ⟨more, rfl⟩
        exact hStop c rfl (hOther c (by simp))

end MathScan.Text

------------------------------------------------------------
-- The First Token of a Text
------------------------------------------------------------

namespace MathScan

/- Whether a character may stand in a name, but for a quote. -/
def NameChar
    (c : Char) : Prop :=
  Text.isBlank c = false ∧ isSymbol c = false ∧
    c.isDigit = false

/-
  The token at the front of a text with no blank there, as its
  first character has it: a string up to and including the
  next quote, one symbol, one digit or the most digits, or the
  longest name.
-/
inductive FirstToken
    (mode : NumberMode)
    (body : List Char) : Token → Prop where
  | string
      {content after : List Char}
      {place : Option Location}
      (hBody : body = quote :: (content ++ quote :: after))
      (hContent : quote ∉ content) :
      FirstToken mode body
        (.ofString (String.ofList content) place)
  | symbol
      {c : Char}
      {place : Option Location}
      (hFirst : body.head? = some c)
      (hSymbol : isSymbol c = true) :
      FirstToken mode body (.ofSymbol c place)
  | digit
      {c : Char}
      {x : Double}
      {place : Option Location}
      (hMode : mode = .singleDigit)
      (hFirst : body.head? = some c)
      (hDigit : c.isDigit = true)
      (hValue : Double.read? [c] = some x) :
      FirstToken mode body
        (.ofNumber x (String.ofList [c]) place)
  | digits
      {ds : List Char}
      {x : Double}
      {place : Option Location}
      (hMode : mode = .greedy)
      (hNonempty : ds ≠ [])
      (hDigits :
        Text.LongestPrefix (·.isDigit = true) body ds)
      (hValue : Double.read? ds = some x) :
      FirstToken mode body
        (.ofNumber x (String.ofList ds) place)
  | name
      {cs : List Char}
      {place : Option Location}
      (hFirst : body.head? ≠ some quote)
      (hNonempty : cs ≠ [])
      (hName : Text.LongestPrefix NameChar body cs) :
      FirstToken mode body (.ofName (String.ofList cs) place)

variable {mode : NumberMode} {body : List Char} {t : Token}

/- A number read whole ends where the digits do. -/
theorem endsBefore_ofNumber_iff
    {x : Double}
    {lexeme : String}
    {place : Option Location}
    {after : List Char} :
    (Token.ofNumber x lexeme place).EndsBefore .greedy after ↔
      ∀ c ∈ after.head?, ¬ c.isDigit = true := by
  simp [Token.EndsBefore, Token.ofNumber, TokenKind.goesOn]

/- A name ends where its characters do. -/
theorem endsBefore_ofName_iff
    {lexeme : String}
    {place : Option Location}
    {after : List Char} :
    (Token.ofName lexeme place).EndsBefore mode after ↔
      ∀ c ∈ after.head?, ¬ NameChar c := by
  simp [Token.EndsBefore, Token.ofName, TokenKind.goesOn,
    continuesRun, continuesName, NameChar]

/- The first token is well-formed, and does not go on. -/
theorem exists_after_of_firstToken
    (hFirstToken : FirstToken mode body t) :
    t.WellFormed mode ∧
      ∃ after, body = t.chars ++ after ∧
        t.EndsBefore mode after := by
  cases hFirstToken with
  | @string content after place hBody hContent =>
      refine ⟨.string hContent, after, ?_, fun _ _ => rfl⟩
      rw [hBody, Token.chars_ofString]
      simp
  | symbol hFirst hSymbol =>
      rcases List.head?_eq_some_iff.mp hFirst with
        ⟨after, rfl⟩
      refine ⟨.symbol hSymbol, after, ?_, fun _ _ => rfl⟩
      rw [Token.chars_ofSymbol, List.singleton_append]
  | @digit c x place hMode hFirst hDigit hValue =>
      subst hMode
      rcases List.head?_eq_some_iff.mp hFirst with
        ⟨after, rfl⟩
      have hOne : ∀ d ∈ [c], d.isDigit = true := by
        simpa using hDigit
      refine ⟨.number (List.cons_ne_nil c []) hOne
        (fun _ => rfl) hValue, after, ?_, fun _ _ => rfl⟩
      rw [Token.chars_ofNumber, List.singleton_append]
  | digits hMode hNonempty hDigits hValue =>
      subst hMode
      rcases hDigits.isPrefix with ⟨after, rfl⟩
      rw [Text.longestPrefix_append_iff] at hDigits
      refine ⟨.number hNonempty hDigits.1 (by simp) hValue,
        after, ?_, endsBefore_ofNumber_iff.mpr hDigits.2⟩
      rw [Token.chars_ofNumber]
  | @name cs place hFirst hNonempty hName =>
      rcases hName.isPrefix with ⟨after, rfl⟩
      rw [Text.longestPrefix_append_iff] at hName
      have hQuote : cs.head? ≠ some quote := by
        cases cs with
        | nil => exact absurd rfl hNonempty
        | cons c more => exact hFirst
      refine ⟨.name hNonempty (fun c hMem => (hName.1 c hMem).1)
        (fun c hMem => (hName.1 c hMem).2.1)
        (fun c hMem => (hName.1 c hMem).2.2) hQuote,
        after, ?_, endsBefore_ofName_iff.mpr hName.2⟩
      rw [Token.chars_ofName]

/- A well-formed token that does not go on is the first one. -/
theorem firstToken_of_wellFormed
    {after : List Char}
    (hToken : t.WellFormed mode)
    (hEnds : t.EndsBefore mode after) :
    FirstToken mode (t.chars ++ after) t := by
  cases hToken with
  | @symbol c place hSymbol =>
      rw [Token.chars_ofSymbol]
      exact .symbol rfl hSymbol
  | @number ds x place hNonempty hDigits hWidth hValue =>
      rw [Token.chars_ofNumber]
      cases mode with
      | singleDigit =>
          rcases List.length_eq_one_iff.mp (hWidth rfl) with
            ⟨c, rfl⟩
          exact .digit rfl rfl (hDigits c (by simp)) hValue
      | greedy =>
          apply FirstToken.digits rfl hNonempty ?_ hValue
          apply Text.longestPrefix_append_iff.mpr
          exact ⟨hDigits, endsBefore_ofNumber_iff.mp hEnds⟩
  | @name cs place hNonempty hBlank hSymbol hDigit hQuote =>
      rw [Token.chars_ofName]
      apply FirstToken.name ?_ hNonempty
      · apply Text.longestPrefix_append_iff.mpr
        refine ⟨?_, endsBefore_ofName_iff.mp hEnds⟩
        intro c hMem
        exact ⟨hBlank c hMem, hSymbol c hMem, hDigit c hMem⟩
      · cases cs with
        | nil => exact absurd rfl hNonempty
        | cons c more => exact hQuote
  | @string content place hContent =>
      have hText :
          (Token.ofString (String.ofList content) place).chars ++
              after =
            quote :: content ++ quote :: after := by
        rw [Token.chars_ofString]
        simp
      exact FirstToken.string hText hContent

end MathScan

------------------------------------------------------------
-- The Reference Step
------------------------------------------------------------

namespace MathScan

namespace Scanner

/-
  What the text at the cursor is matched as. All blanks in
  front are skipped. Then there is nothing left, or the first
  token, behind which the cursor is put, or a string that is
  not closed, for which all that is left is given up.
-/
inductive LongestMatch
    (s : Scanner) :
    Except ScanError (Option Token) × Scanner → Prop where
  | nothing
      (hBlank : Text.Blank s.rest) :
      LongestMatch s (.ok none, s.advance s.rest.length)
  | token
      {gap body : List Char}
      {t : Token}
      (hRest : s.rest = gap ++ body)
      (hGap :
        Text.LongestPrefix (Text.isBlank · = true) s.rest gap)
      (hToken : FirstToken s.mode body t) :
      LongestMatch s
        (.ok (some (t.placed
            (s.place (s.position + gap.length)))),
          s.advance (gap.length + t.chars.length))
  | unclosed
      {gap content : List Char}
      (hRest : s.rest = gap ++ quote :: content)
      (hGap :
        Text.LongestPrefix (Text.isBlank · = true) s.rest gap)
      (hContent : quote ∉ content) :
      LongestMatch s
        (.error (.unterminatedString
            (s.place (s.position + gap.length))),
          s.advance s.rest.length)

variable {s : Scanner}
variable {reply : Except ScanError (Option Token) × Scanner}

/- The next token is what the text is matched as. -/
theorem next_of_longestMatch
    (hMatch : s.LongestMatch reply) :
    s.next = reply := by
  cases hMatch with
  | nothing hBlank => exact next_blank hBlank
  | @token gap body t hRest hGap hToken =>
      rcases exists_after_of_firstToken hToken with
        ⟨hWellFormed, after, rfl, hEnds⟩
      let p : Piece s.mode := ⟨gap, t, hGap.holds, hWellFormed⟩
      have hPiece : s.rest = p.chars ++ after := by
        rw [hRest, Piece.chars, List.append_assoc]
      have hNext := next_piece rfl p hPiece hEnds
      rw [Piece.chars, List.length_append] at hNext
      exact hNext
  | unclosed hRest hGap hContent =>
      exact next_unclosed hRest hGap.holds hContent

/- Blanks in front of another character are all there are. -/
theorem longestPrefix_gap
    {gap body : List Char}
    (hGap : Text.Blank gap)
    (hBody : ∀ c ∈ body.head?, Text.isBlank c = false) :
    Text.LongestPrefix (Text.isBlank · = true) (gap ++ body)
      gap := by
  apply Text.longestPrefix_append_iff.mpr
  refine ⟨hGap, ?_⟩
  intro c hHead
  rw [hBody c hHead]
  exact Bool.false_ne_true

/- The text at the cursor is matched as the next token. -/
theorem longestMatch_next
    (s : Scanner) :
    s.LongestMatch s.next := by
  have hFront := front s.mode s.rest
  generalize hRest : s.rest = cs at hFront
  cases hFront with
  | blank hGap =>
      rw [next_blank (hRest ▸ hGap)]
      exact .nothing (hRest ▸ hGap)
  | @piece p after hEnds =>
      rcases p with ⟨gap, t, hGap, hToken⟩
      have hNext := next_piece rfl _ hRest hEnds
      rw [Piece.chars, List.append_assoc] at hRest
      rcases hToken.exists_cons with ⟨c, more, hChars, hBlank, _⟩
      rw [hNext, Piece.chars, List.length_append]
      apply LongestMatch.token hRest
      · rw [hRest]
        apply longestPrefix_gap hGap
        simpa [hChars] using hBlank
      · exact firstToken_of_wellFormed hToken hEnds
  | @unclosed gap content hGap hContent =>
      rw [next_unclosed hRest hGap hContent]
      apply LongestMatch.unclosed hRest ?_ hContent
      have hQuote : Text.isBlank quote = false := by
        decide
      rw [hRest]
      apply longestPrefix_gap hGap
      simpa using hQuote

/- The text is matched in one way only, as the next token. -/
theorem longestMatch_iff :
    s.LongestMatch reply ↔ s.next = reply := by
  constructor
  · exact next_of_longestMatch
  · rintro rfl
    exact longestMatch_next s

end Scanner

end MathScan

------------------------------------------------------------
-- Runs
------------------------------------------------------------

namespace MathScan

/-
  The terminator at the end of a run makes no difference to
  the lexeme at its front.
-/
theorem frontLexeme_detachTerminator
    (mode : NumberMode)
    (first : Char)
    (more : List Char) :
    frontLexeme mode first (detachTerminator more) =
      frontLexeme mode first more := by
  have hDigits :
      moreDigits (detachTerminator more) mode =
        moreDigits more mode := by
    cases mode with
    | singleDigit => rfl
    | greedy => exact takeWhile_detachTerminator (by decide) more
  have hName := takeWhile_detachTerminator
    (p := continuesName) (by decide) more
  rw [frontLexeme, hDigits, hName, frontLexeme]

namespace Scanner

/-
  Reads the next token, where the run behind the first
  character is taken out of the source in a given way.
-/
def nextBy
    (run : List Char → List Char)
    (s : Scanner) :
    Except ScanError (Option Token) × Scanner :=
  let u := s.skipBlanks
  match u.rest with
  | [] => (.ok none, u)
  | c :: more =>
    if c = quote then
      (u.readString.1.map some, u.readString.2)
    else
      let lexeme := frontLexeme u.mode c (run more)
      (.ok (some (bareToken lexeme.1 lexeme.2 u.here)),
        u.advance lexeme.2.length)

/-
  The run that is read goes up to the next blank, without a
  terminator at its end.
-/
theorem nextBy_run
    (s : Scanner) :
    s.nextBy
        (fun more =>
          detachTerminator (more.takeWhile continuesRun)) =
      s.next := rfl

/- Whole runs are read as they are without a terminator. -/
theorem nextBy_wholeRun
    (s : Scanner) :
    s.nextBy (fun more => more.takeWhile continuesRun) =
      s.next := by
  rw [← nextBy_run]
  simp only [nextBy, frontLexeme_detachTerminator]

/-
  The next token is what the longest match gives, and nothing
  else is: with its place, with the error of a string that is
  not closed, and with the cursor behind it. To take off the
  terminator at the end of a run makes no difference to it.
-/
theorem next_longestMatch
    (s : Scanner) :
    (∀ reply, s.LongestMatch reply ↔ s.next = reply) ∧
      s.nextBy
          (fun more =>
            detachTerminator (more.takeWhile continuesRun)) =
        s.next ∧
      s.nextBy (fun more => more.takeWhile continuesRun) =
        s.next := by
  refine ⟨?_, nextBy_run s, nextBy_wholeRun s⟩
  intro reply
  exact longestMatch_iff

end Scanner

end MathScan
