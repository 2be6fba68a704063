import MathScan.Proofs.Numeral
import MathScan.Token.Lexeme

/-
  Lexemes as longest matches. The first character of a lexeme
  decides its kind, and the lexeme goes on for as long as its
  characters belong to the one before. How far the run of
  characters without blanks reaches, and the terminator taken
  off at its end, never matter.

  Key definitions include:
    * `Text.Blank`
    * `TokenKind.ofFirst`
    * `TokenKind.goesOn`

  The key statement is `frontLexeme_run`.
-/

------------------------------------------------------------
-- Classes of Characters
------------------------------------------------------------

namespace MathScan

/- A text of blanks only. -/
def Text.Blank
    (cs : List Char) : Prop :=
  ∀ c ∈ cs, isBlank c = true

instance
    (cs : List Char) :
    Decidable (Text.Blank cs) :=
  decidable_of_iff (cs.all Text.isBlank = true)
    List.all_eq_true

/- A symbol has every property that the four symbols have. -/
theorem of_isSymbol
    {P : Char → Prop}
    [DecidablePred P]
    (hAll : (symbols.all fun c => P c) = true)
    {c : Char}
    (hSymbol : isSymbol c = true) :
    P c :=
  of_mem_of_all hAll (List.contains_iff_mem.mp hSymbol)

theorem isBlank_of_isSymbol
    {c : Char}
    (hSymbol : isSymbol c = true) :
    Text.isBlank c = false :=
  of_isSymbol (P := fun c => Text.isBlank c = false)
    (by decide) hSymbol

theorem isDigit_of_isSymbol
    {c : Char}
    (hSymbol : isSymbol c = true) :
    c.isDigit = false :=
  of_isSymbol (P := fun c => c.isDigit = false)
    (by decide) hSymbol

theorem ne_quote_of_isSymbol
    {c : Char}
    (hSymbol : isSymbol c = true) :
    c ≠ quote :=
  of_isSymbol (P := fun c => c ≠ quote) (by decide) hSymbol

theorem isBlank_of_isDigit
    {c : Char}
    (hDigit : c.isDigit = true) :
    Text.isBlank c = false :=
  of_isDigit (P := fun c => Text.isBlank c = false)
    (by decide) hDigit

theorem ne_quote_of_isDigit
    {c : Char}
    (hDigit : c.isDigit = true) :
    c ≠ quote :=
  of_isDigit (P := fun c => c ≠ quote) (by decide) hDigit

end MathScan

------------------------------------------------------------
-- How Far a Token Goes
------------------------------------------------------------

namespace MathScan

namespace TokenKind

/- The kind of the token that begins with a character. -/
def ofFirst
    (c : Char) : TokenKind :=
  if c = quote then
    .string
  else if isSymbol c then
    .symbol
  else if c.isDigit then
    .number
  else
    .name

/-
  Whether a character right behind a token of some kind still
  belongs to it. A symbol is one character, a number is one
  too unless numbers are read whole, a name ends only before
  a blank, a symbol or a digit, and a string has an end of
  its own.
-/
def goesOn
    (mode : NumberMode)
    (kind : TokenKind)
    (c : Char) : Bool :=
  match kind with
  | .symbol => false
  | .number => mode == .greedy && c.isDigit
  | .name => continuesRun c && continuesName c
  | .string => false

/- The two ways in which a token goes on. -/
theorem goesOn_iff
    {mode : NumberMode}
    {kind : TokenKind}
    {c : Char} :
    kind.goesOn mode c = true ↔
      (kind = .name ∧ Text.isBlank c = false ∧
        isSymbol c = false ∧ c.isDigit = false) ∨
      (mode = .greedy ∧ kind = .number ∧ c.isDigit = true) := by
  cases kind with
  | symbol => simp [goesOn]
  | number => simp [goesOn]
  | name => simp [goesOn, continuesRun, continuesName]
  | string => simp [goesOn]

/- No token goes on with a blank. -/
theorem goesOn_of_isBlank
    {mode : NumberMode}
    {kind : TokenKind}
    {c : Char}
    (hBlank : Text.isBlank c = true) :
    kind.goesOn mode c = false := by
  cases kind with
  | symbol => rfl
  | string => rfl
  | name => simp [goesOn, continuesRun, hBlank]
  | number =>
      cases hDigit : c.isDigit with
      | false => simp [goesOn, hDigit]
      | true =>
          have hNotBlank := isBlank_of_isDigit hDigit
          simp [hBlank] at hNotBlank

/- Only a name goes on with a quote. -/
theorem goesOn_quote
    (mode : NumberMode)
    (kind : TokenKind) :
    kind.goesOn mode quote = decide (kind = .name) := by
  cases kind with
  | symbol => rfl
  | string => rfl
  | name => rfl
  | number => cases mode <;> rfl

end TokenKind

end MathScan

------------------------------------------------------------
-- Runs
------------------------------------------------------------

namespace MathScan

/-
  A scan for characters other than the terminator sees no
  difference where the terminator is taken off.
-/
theorem takeWhile_detachTerminator
    {p : Char → Bool}
    (hStops : p terminator = false)
    (more : List Char) :
    (detachTerminator more).takeWhile p =
      more.takeWhile p := by
  unfold detachTerminator
  split
  · rename_i hLast
    rcases List.getLast?_eq_some_iff.mp hLast with ⟨front, rfl⟩
    rw [List.dropLast_concat, List.takeWhile_append,
      List.takeWhile_cons_of_neg (by simp [hStops])]
    split
    · rename_i hAll
      rw [List.append_nil,
        (List.takeWhile_prefix p).eq_of_length hAll]
    · rfl
  · rfl

/-
  A scan within the run sees the characters that a scan of
  the whole text sees, if it stops at blanks.
-/
theorem takeWhile_run
    {p : Char → Bool}
    (hStops : p terminator = false)
    (cs : List Char) :
    (detachTerminator (cs.takeWhile continuesRun)).takeWhile p =
      cs.takeWhile (fun c => continuesRun c && p c) := by
  rw [takeWhile_detachTerminator hStops,
    List.takeWhile_takeWhile]
  congr 1
  funext c
  simp [Bool.and_comm]

/- The digits of a run are all the digits that follow. -/
theorem moreDigits_run
    (mode : NumberMode)
    (cs : List Char) :
    moreDigits (detachTerminator (cs.takeWhile continuesRun))
        mode =
      cs.takeWhile (TokenKind.number.goesOn mode) := by
  cases mode with
  | singleDigit =>
      cases cs with
      | nil => rfl
      | cons c rest => simp [moreDigits, TokenKind.goesOn]
  | greedy =>
      have hClass :
          (fun c => continuesRun c && c.isDigit) =
            TokenKind.number.goesOn .greedy := by
        funext c
        by_cases hDigit : c.isDigit = true
        · simp [TokenKind.goesOn, continuesRun, hDigit,
            isBlank_of_isDigit hDigit]
        · simp [TokenKind.goesOn, hDigit]
      rw [moreDigits, takeWhile_run (by decide), hClass]

/-
  The lexeme at the front of a run that does not begin with a
  quote: its first character decides its kind, and it goes on
  as far as the kind allows.
-/
theorem frontLexeme_run
    (mode : NumberMode)
    {c : Char}
    (hQuote : c ≠ quote)
    (cs : List Char) :
    frontLexeme mode c
        (detachTerminator (cs.takeWhile continuesRun)) =
      (TokenKind.ofFirst c,
        c :: cs.takeWhile
          ((TokenKind.ofFirst c).goesOn mode)) := by
  unfold frontLexeme TokenKind.ofFirst
  by_cases hSymbol : isSymbol c = true
  · cases cs with
    | nil => simp [hQuote, hSymbol]
    | cons d rest => simp [hQuote, hSymbol, TokenKind.goesOn]
  · by_cases hDigit : c.isDigit = true
    · simp only [hQuote, hSymbol, hDigit, if_true, if_false,
        Bool.false_eq_true, moreDigits_run]
    · simp only [hQuote, hSymbol, hDigit, if_false,
        Bool.false_eq_true, takeWhile_run (p := continuesName)
          (by decide)]
      rfl

end MathScan
