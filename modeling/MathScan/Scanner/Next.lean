import MathScan.Double.Rounding
import MathScan.Scanner.Basic
import MathScan.Token.Basic
import MathScan.Token.Lexeme

/-
  Reading one token.

  Key definitions include:
    * `Scanner.readString`
    * `Scanner.readBare`
    * `Scanner.next`

  The key statement is `Scanner.length_rest_next`: less of the
  source is left after each token.
-/

namespace MathScan

namespace Scanner

------------------------------------------------------------
-- Strings
------------------------------------------------------------

/-
  Reads a string at the cursor: everything from a quote to the
  next one. The cursor is moved behind a character that is no
  quote, and to the end of the source if there is no closing
  quote.
-/
def readString
    (s : Scanner) : Except ScanError Token × Scanner :=
  match s.rest with
  | [] => (.error s.overrun, s)
  | c :: more =>
    if c = quote then
      let content := more.takeWhile (· != quote)
      match more.dropWhile (· != quote) with
      | [] =>
        (.error (.unterminatedString s.here),
          s.advance (content.length + 1))
      | _ :: _ =>
        (.ok (.ofString (String.ofList content) (some s.here)),
          s.advance (content.length + 2))
    else
      (.error (.malformedString (String.singleton c) s.here),
        s.advance 1)

------------------------------------------------------------
-- Symbols, numbers and names
------------------------------------------------------------

/- The token of a lexeme that is no string. -/
def bareToken
    (kind : TokenKind)
    (lexeme : List Char)
    (place : Location) : Token :=
  let text := String.ofList lexeme
  match kind with
  | .number =>
    .ofNumber (.ofNat (Nat.ofDigitChars 10 lexeme 0)) text
      (some place)
  | kind => ⟨kind, text, .text text, some place⟩

/-
  Reads a symbol, a number or a name out of the run that
  starts with `c` at the cursor, before the characters `more`.
-/
def readBare
    (s : Scanner)
    (c : Char)
    (more : List Char) : Token × Scanner :=
  let run := detachTerminator (more.takeWhile continuesRun)
  let (kind, lexeme) := frontLexeme s.mode c run
  (bareToken kind lexeme s.here, s.advance lexeme.length)

------------------------------------------------------------
-- Any token
------------------------------------------------------------

/- Moves the cursor to the next character that is not blank. -/
def skipBlanks
    (s : Scanner) : Scanner :=
  s.advance (s.rest.takeWhile Text.isBlank).length

/- Reads the token at the cursor, where no blank stands. -/
def readToken
    (s : Scanner) : Except ScanError (Option Token) × Scanner :=
  match s.rest with
  | [] => (.ok none, s)
  | c :: more =>
    if c = quote then
      let (answer, s) := s.readString
      (answer.map some, s)
    else
      let (token, s) := s.readBare c more
      (.ok (some token), s)

/- Reads the next token; there is none if only blanks follow. -/
def next
    (s : Scanner) : Except ScanError (Option Token) × Scanner :=
  s.skipBlanks.readToken

------------------------------------------------------------
-- Progress
------------------------------------------------------------

/- What is left after the cursor has moved. -/
theorem length_rest_advance
    (s : Scanner)
    (n : Nat) :
    (s.advance n).rest.length = s.rest.length - n := by
  simp [advance]

/- Less is left after a string. -/
theorem length_rest_readString
    (s : Scanner)
    {t : Token}
    (hRead : s.readString.1 = .ok t) :
    s.readString.2.rest.length < s.rest.length := by
  unfold readString at hRead ⊢
  cases hRest : s.rest with
  | nil => simp [hRest] at hRead
  | cons c more =>
    simp only [hRest] at hRead ⊢
    by_cases hQuote : c = quote
    · simp only [hQuote, if_true] at hRead ⊢
      cases hClose : more.dropWhile (· != quote) with
      | nil => simp [hClose] at hRead
      | cons d after =>
        simp only [length_rest_advance, hRest, List.length_cons]
        omega
    · simp [hQuote] at hRead

/- Less is left after each token. -/
theorem length_rest_next
    (s : Scanner)
    {t : Token}
    (hNext : s.next.1 = .ok (some t)) :
    s.next.2.rest.length < s.rest.length := by
  have hSkip : s.skipBlanks.rest.length ≤ s.rest.length := by
    simp [skipBlanks, length_rest_advance]
  unfold next at hNext ⊢
  generalize s.skipBlanks = u at hNext hSkip ⊢
  unfold readToken at hNext ⊢
  cases hRest : u.rest with
  | nil => simp [hRest] at hNext
  | cons c more =>
    simp only [hRest] at hNext ⊢
    split at hNext
    · rename_i hQuote
      cases hRead : u.readString.1 with
      | error e => simp [hRead, Except.map] at hNext
      | ok v =>
        have := length_rest_readString u hRead
        simp only [hQuote, if_true]
        omega
    · rename_i hQuote
      have := length_frontLexeme_pos u.mode c
        (detachTerminator (more.takeWhile continuesRun))
      simp only [hQuote, if_false, readBare,
        length_rest_advance, hRest, List.length_cons] at hSkip ⊢
      omega

end Scanner

end MathScan
