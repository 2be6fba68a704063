import MathScan.Proofs.LongestMatch
import MathScan.Scanner.Next

/-
  Well-formed tokens: the tokens that a program text can hold.
  A lexeme says of which kind its token is and what it means,
  and no lexeme begins with a blank.

  Key definitions include:
    * `Token.WellFormed`
    * `Token.EndsBefore`
    * `Token.placed`

  The key statements are:
    * `Token.WellFormed.exists_cons`
    * `Token.exists_wellFormed`
    * `Token.WellFormed.eq_of_same`
    * `Token.WellFormed.bareToken_eq_placed`
-/

------------------------------------------------------------
-- Well-Formed Tokens
------------------------------------------------------------

namespace MathScan

namespace Token

/- The characters of a token, as they stand in the source. -/
def chars
    (t : Token) : List Char :=
  t.lexeme.toList

/- A token with another location. -/
def placed
    (t : Token)
    (place : Location) : Token :=
  { t with location := some place }

/-
  The tokens of a program text: a symbol; a number in digits,
  of which there is only one unless numbers are read whole,
  with the value that its digits are read as; a name, which
  has no blank, symbol or digit in it and no quote in front;
  a string between quotes with no quote in it.
-/
inductive WellFormed
    (mode : NumberMode) : Token → Prop where
  | symbol
      {c : Char}
      {place : Option Location}
      (hSymbol : isSymbol c = true) :
      WellFormed mode (ofSymbol c place)
  | number
      {ds : List Char}
      {x : Double}
      {place : Option Location}
      (hNonempty : ds ≠ [])
      (hDigits : ∀ d ∈ ds, d.isDigit = true)
      (hWidth : mode = .singleDigit → ds.length = 1)
      (hValue : Double.read? ds = some x) :
      WellFormed mode (ofNumber x (String.ofList ds) place)
  | name
      {cs : List Char}
      {place : Option Location}
      (hNonempty : cs ≠ [])
      (hBlank : ∀ c ∈ cs, Text.isBlank c = false)
      (hSymbol : ∀ c ∈ cs, isSymbol c = false)
      (hDigit : ∀ c ∈ cs, c.isDigit = false)
      (hQuote : cs.head? ≠ some quote) :
      WellFormed mode (ofName (String.ofList cs) place)
  | string
      {content : List Char}
      {place : Option Location}
      (hContent : quote ∉ content) :
      WellFormed mode
        (ofString (String.ofList content) place)

/- The text behind a token does not go on with it. -/
def EndsBefore
    (mode : NumberMode)
    (t : Token)
    (after : List Char) : Prop :=
  ∀ c ∈ after.head?, t.kind.goesOn mode c = false

------------------------------------------------------------
-- Characters
------------------------------------------------------------

@[simp] theorem kind_placed
    (t : Token)
    (place : Location) :
    (t.placed place).kind = t.kind := rfl

@[simp] theorem lexeme_placed
    (t : Token)
    (place : Location) :
    (t.placed place).lexeme = t.lexeme := rfl

@[simp] theorem chars_placed
    (t : Token)
    (place : Location) :
    (t.placed place).chars = t.chars := rfl

@[simp] theorem chars_ofSymbol
    (c : Char)
    (place : Option Location) :
    (ofSymbol c place).chars = [c] := by
  simp [chars, ofSymbol]

@[simp] theorem chars_ofNumber
    (x : Double)
    (ds : List Char)
    (place : Option Location) :
    (ofNumber x (String.ofList ds) place).chars = ds := by
  simp [chars, ofNumber]

@[simp] theorem chars_ofName
    (cs : List Char)
    (place : Option Location) :
    (ofName (String.ofList cs) place).chars = cs := by
  simp [chars, ofName]

@[simp] theorem chars_ofString
    (content : List Char)
    (place : Option Location) :
    (ofString (String.ofList content) place).chars =
      quote :: (content ++ [quote]) := by
  simp [chars, ofString, quote]

theorem length_chars
    (t : Token) :
    t.chars.length = t.lexeme.length :=
  String.length_toList

namespace WellFormed

variable {mode : NumberMode} {t u : Token}

/- A token may stand anywhere. -/
theorem placed
    (hToken : t.WellFormed mode)
    (place : Location) :
    (t.placed place).WellFormed mode := by
  cases hToken with
  | symbol hSymbol => exact .symbol hSymbol
  | number hNonempty hDigits hWidth hValue =>
      exact .number hNonempty hDigits hWidth hValue
  | name hNonempty hBlank hSymbol hDigit hQuote =>
      exact .name hNonempty hBlank hSymbol hDigit hQuote
  | string hContent => exact .string hContent

/-
  A token has a first character, which is no blank and which
  decides the kind.
-/
theorem exists_cons
    (hToken : t.WellFormed mode) :
    ∃ c more, t.chars = c :: more ∧
      Text.isBlank c = false ∧
      t.kind = TokenKind.ofFirst c := by
  cases hToken with
  | @symbol c place hSymbol =>
      refine ⟨c, [], chars_ofSymbol c place,
        isBlank_of_isSymbol hSymbol, ?_⟩
      simp [TokenKind.ofFirst, ne_quote_of_isSymbol hSymbol,
        hSymbol, ofSymbol]
  | @number ds x place hNonempty hDigits hWidth hValue =>
      rcases List.exists_cons_of_ne_nil hNonempty with
        ⟨d, more, rfl⟩
      have hDigit : d.isDigit = true :=
        hDigits d (by simp)
      have hNoSymbol : isSymbol d = false :=
        of_isDigit (P := fun c => isSymbol c = false)
          (by decide) hDigit
      refine ⟨d, more, chars_ofNumber x _ place,
        isBlank_of_isDigit hDigit, ?_⟩
      simp [TokenKind.ofFirst, ne_quote_of_isDigit hDigit,
        hNoSymbol, hDigit, ofNumber]
  | @name cs place hNonempty hBlank hSymbol hDigit hQuote =>
      rcases List.exists_cons_of_ne_nil hNonempty with
        ⟨c, more, rfl⟩
      have hNotQuote : c ≠ quote := by
        rintro rfl
        exact hQuote rfl
      refine ⟨c, more, chars_ofName _ place,
        hBlank c (by simp), ?_⟩
      simp [TokenKind.ofFirst, hNotQuote,
        hSymbol c (by simp), hDigit c (by simp), ofName]
  | @string content place hContent =>
      refine ⟨quote, content ++ [quote],
        chars_ofString content place, by decide, ?_⟩
      simp [TokenKind.ofFirst, ofString]

theorem chars_ne_nil
    (hToken : t.WellFormed mode) :
    t.chars ≠ [] := by
  rcases hToken.exists_cons with ⟨c, more, hChars, _⟩
  rw [hChars]
  exact List.cons_ne_nil c more

/-
  Behind the first character of a token that is no string
  stand characters that go on with it.
-/
theorem goesOn_of_mem_tail
    (hToken : t.WellFormed mode)
    (hKind : t.kind ≠ .string) :
    ∀ d ∈ t.chars.tail, t.kind.goesOn mode d = true := by
  cases hToken with
  | symbol hSymbol => simp
  | @number ds x place hNonempty hDigits hWidth hValue =>
      rw [chars_ofNumber]
      intro d hMem
      cases mode with
      | singleDigit =>
          have hOne : ds.tail = [] := by
            apply List.eq_nil_of_length_eq_zero
            rw [List.length_tail, hWidth rfl]
          rw [hOne] at hMem
          exact absurd hMem List.not_mem_nil
      | greedy =>
          have hDigit := hDigits d (List.mem_of_mem_tail hMem)
          simp [TokenKind.goesOn, ofNumber, hDigit]
  | name hNonempty hBlank hSymbol hDigit hQuote =>
      rw [chars_ofName]
      intro d hMem
      have hName := List.mem_of_mem_tail hMem
      simp [TokenKind.goesOn, continuesRun, continuesName,
        ofName, hBlank d hName, hSymbol d hName,
        hDigit d hName]
  | string hContent => exact absurd rfl hKind

/- A string is its content between two quotes. -/
theorem exists_content
    (hToken : t.WellFormed mode)
    (hKind : t.kind = .string) :
    ∃ content, quote ∉ content ∧
      t.chars = quote :: (content ++ [quote]) ∧
      t.value = .text (String.ofList content) := by
  cases hToken with
  | symbol hSymbol => cases hKind
  | number hNonempty hDigits hWidth hValue => cases hKind
  | name hNonempty hBlank hSymbol hDigit hQuote => cases hKind
  | @string content place hContent =>
      exact ⟨content, hContent,
        chars_ofString content place, rfl⟩

end WellFormed

/-
  A character that is neither blank nor a quote is the first
  one of a token, with any characters behind it that go on
  with a token of its kind.
-/
theorem exists_wellFormed
    {mode : NumberMode}
    {c : Char}
    {more : List Char}
    (hBlank : Text.isBlank c = false)
    (hQuote : c ≠ quote)
    (hMore :
      ∀ d ∈ more, (TokenKind.ofFirst c).goesOn mode d = true) :
    ∃ t : Token, t.WellFormed mode ∧
      t.kind = TokenKind.ofFirst c ∧ t.chars = c :: more := by
  unfold TokenKind.ofFirst at hMore ⊢
  by_cases hSymbol : isSymbol c = true
  · have hAlone : more = [] := by
      apply List.eq_nil_iff_forall_not_mem.mpr
      intro d hMem
      have hNever := hMore d hMem
      simp [hQuote, hSymbol, TokenKind.goesOn] at hNever
    subst hAlone
    refine ⟨ofSymbol c none, .symbol hSymbol, ?_,
      chars_ofSymbol c none⟩
    simp [hQuote, hSymbol, ofSymbol]
  · by_cases hDigit : c.isDigit = true
    · simp only [hQuote, hSymbol, hDigit, if_true, if_false,
        Bool.false_eq_true] at hMore ⊢
      have hDigits : ∀ d ∈ c :: more, d.isDigit = true := by
        intro d hMem
        rcases List.mem_cons.mp hMem with rfl | hLater
        · exact hDigit
        · have hGoesOn := hMore d hLater
          simp only [TokenKind.goesOn, Bool.and_eq_true]
            at hGoesOn
          exact hGoesOn.2
      have hWidth :
          mode = .singleDigit → (c :: more).length = 1 := by
        rintro rfl
        cases more with
        | nil => rfl
        | cons d rest =>
            have hNever := hMore d (by simp)
            simp [TokenKind.goesOn] at hNever
      refine
        ⟨ofNumber (.ofNat (Nat.ofDigitChars 10 (c :: more) 0))
            (String.ofList (c :: more)) none,
          .number (List.cons_ne_nil c more) hDigits hWidth
            (Double.read?_digits (List.cons_ne_nil c more)
              hDigits),
          rfl, chars_ofNumber _ _ none⟩
    · simp only [hQuote, hSymbol, hDigit, if_false,
        Bool.false_eq_true] at hMore ⊢
      have hName :
          ∀ d ∈ c :: more, Text.isBlank d = false ∧
            isSymbol d = false ∧ d.isDigit = false := by
        intro d hMem
        rcases List.mem_cons.mp hMem with rfl | hLater
        · exact ⟨hBlank, Bool.eq_false_iff.mpr hSymbol,
            Bool.eq_false_iff.mpr hDigit⟩
        · have hGoesOn := hMore d hLater
          simpa [TokenKind.goesOn, continuesRun,
            continuesName] using hGoesOn
      refine
        ⟨ofName (String.ofList (c :: more)) none,
          .name (List.cons_ne_nil c more)
            (fun d hMem => (hName d hMem).1)
            (fun d hMem => (hName d hMem).2.1)
            (fun d hMem => (hName d hMem).2.2) ?_,
          rfl, chars_ofName _ none⟩
      simpa using hQuote

end Token

end MathScan

------------------------------------------------------------
-- Lexeme and Value
------------------------------------------------------------

namespace MathScan

theorem Double.same_self
    {x : Double}
    (hNumber : x ≠ .nan) :
    x.same x = true := by
  cases x with
  | nan => exact absurd rfl hNumber
  | infinite negative => simp [same]
  | finite negative m => simp [same]

theorem Double.ofMagnitude?_ne_nan
    (negative : Bool)
    (m : Option Magnitude) :
    ofMagnitude? negative m ≠ .nan := by
  cases m with
  | none => simp [ofMagnitude?]
  | some m => simp [ofMagnitude?]

namespace Token

namespace WellFormed

variable {mode : NumberMode} {t u : Token}

/- A number has the value of the double that it spells. -/
theorem value_of_number
    (hToken : t.WellFormed mode)
    (hKind : t.kind = .number) :
    t.value =
      .number (.ofNat (Nat.ofDigitChars 10 t.chars 0)) := by
  cases hToken with
  | symbol hSymbol => cases hKind
  | name hNonempty hBlank hSymbol hDigit hQuote => cases hKind
  | string hContent => cases hKind
  | number hNonempty hDigits hWidth hValue =>
      have hRead := Double.read?_digits hNonempty hDigits
      rw [hValue, Option.some.injEq] at hRead
      rw [chars_ofNumber, ← hRead]
      rfl

/- A symbol or a name means its own characters. -/
theorem value_of_text
    (hToken : t.WellFormed mode)
    (hKind : t.kind = .symbol ∨ t.kind = .name) :
    t.value = .text t.lexeme := by
  cases hToken with
  | symbol hSymbol => rfl
  | name hNonempty hBlank hSymbol hDigit hQuote => rfl
  | number hNonempty hDigits hWidth hValue =>
      rcases hKind with hSymbol | hName
      · cases hSymbol
      · cases hName
  | string hContent =>
      rcases hKind with hSymbol | hName
      · cases hSymbol
      · cases hName

/- What a token means follows from its kind and its lexeme. -/
theorem value_eq
    (hFirst : t.WellFormed mode)
    (hSecond : u.WellFormed mode)
    (hKind : t.kind = u.kind)
    (hLexeme : t.lexeme = u.lexeme) :
    t.value = u.value := by
  have hChars : t.chars = u.chars := by
    rw [chars, chars, hLexeme]
  cases hOwn : t.kind with
  | symbol =>
      rw [hFirst.value_of_text (.inl hOwn),
        hSecond.value_of_text (.inl (hKind ▸ hOwn)), hLexeme]
  | name =>
      rw [hFirst.value_of_text (.inr hOwn),
        hSecond.value_of_text (.inr (hKind ▸ hOwn)), hLexeme]
  | number =>
      rw [hFirst.value_of_number hOwn,
        hSecond.value_of_number (hKind ▸ hOwn), hChars]
  | string =>
      rcases hFirst.exists_content hOwn with
        ⟨first, _, hFirstChars, hFirstValue⟩
      rcases hSecond.exists_content (hKind ▸ hOwn) with
        ⟨second, _, hSecondChars, hSecondValue⟩
      have hContent : first = second := by
        simpa [hFirstChars, hSecondChars] using hChars
      rw [hFirstValue, hSecondValue, hContent]

theorem same_self
    (hToken : t.WellFormed mode) :
    t.same t = true := by
  have hValue : t.value.same t.value = true := by
    cases hKind : t.kind with
    | symbol =>
        rw [hToken.value_of_text (.inl hKind)]
        simp [Value.same]
    | name =>
        rw [hToken.value_of_text (.inr hKind)]
        simp [Value.same]
    | number =>
        rw [hToken.value_of_number hKind]
        exact Double.same_self
          (Double.ofMagnitude?_ne_nan false _)
    | string =>
        rcases hToken.exists_content hKind with
          ⟨content, _, _, hText⟩
        rw [hText]
        simp [Value.same]
  simp [Token.same, hValue]

/- Equal tokens at one place are the same token. -/
theorem eq_of_same
    (hFirst : t.WellFormed mode)
    (hSecond : u.WellFormed mode)
    (hSame : t.same u = true)
    (hPlace : t.location = u.location) :
    t = u := by
  simp only [Token.same, Bool.and_eq_true, beq_iff_eq] at hSame
  rcases hSame with ⟨⟨hKind, hLexeme⟩, _⟩
  have hValue := hFirst.value_eq hSecond hKind hLexeme
  cases t
  cases u
  simp_all

/- A token that is no string is what its characters spell. -/
theorem bareToken_eq_placed
    (hToken : t.WellFormed mode)
    (hKind : t.kind ≠ .string)
    (place : Location) :
    Scanner.bareToken t.kind t.chars place =
      t.placed place := by
  have hText : String.ofList t.chars = t.lexeme :=
    String.ofList_toList
  rcases t with ⟨kind, lexeme, value, location⟩
  cases kind with
  | symbol =>
      have hValue := hToken.value_of_text (.inl rfl)
      simp_all [Scanner.bareToken, Token.placed]
  | name =>
      have hValue := hToken.value_of_text (.inr rfl)
      simp_all [Scanner.bareToken, Token.placed]
  | number =>
      have hValue := hToken.value_of_number rfl
      simp only [Scanner.bareToken, ofNumber, hText, ← hValue]
      rfl
  | string => exact absurd rfl hKind

end WellFormed

end Token

end MathScan
