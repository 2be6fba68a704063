import MathScan.Proofs.Progress
import MathScan.Proofs.WholeNumbers

/-
  The values of scanned numbers. A run of digits is scanned as
  the double that is nearest to the number it spells, however
  long it is, and number tokens that are built from integers
  and from doubles agree with this: in their values always,
  and in their lexemes just where nothing is rounded.

  Key definitions include:
    * `Token.Emitted`
    * `Token.spelled`
    * `Token.ScannedAs`
    * `Token.AgreesWith`

  The key statements are:
    * `tokenize_digits`
    * `Token.Emitted.value_eq`
    * `Token.scanned_numbers_rounded`
    * `Token.built_numbers_agree`
-/

------------------------------------------------------------
-- Runs of Digits
------------------------------------------------------------

namespace MathScan

section

variable {ds : List Char}

/- A text of digits is a single piece. -/
def digitsLayout
    (hNonempty : ds ≠ [])
    (hDigits : ∀ d ∈ ds, d.isDigit = true) :
    Layout .greedy :=
  { pieces :=
      [{ gap := []
         token :=
           .ofNumber (.ofNat (Nat.ofDigitChars 10 ds 0))
             (String.ofList ds) none
         gap_blank := List.forall_mem_nil _
         token_wellFormed :=
           .number hNonempty hDigits nofun
             (Double.read?_digits hNonempty hDigits) }]
    gap := []
    gap_blank := List.forall_mem_nil _ }

/- A text of digits is read as one number, if read whole. -/
theorem tokenize_digits
    (hNonempty : ds ≠ [])
    (hDigits : ∀ d ∈ ds, d.isDigit = true)
    (filename : String) :
    ∃ place,
      tokenize (String.ofList ds) filename .greedy =
        .ok
          [.ofNumber (.ofNat (Nat.ofDigitChars 10 ds 0))
            (String.ofList ds) (some place)] := by
  have hText : (digitsLayout hNonempty hDigits).text = ds := by
    simp [Layout.text, digitsLayout, Piece.chars]
  have hSettled :
      Piece.Settled (digitsLayout hNonempty hDigits).gap
        (digitsLayout hNonempty hDigits).pieces := by
    simp [digitsLayout, Piece.Settled, Token.EndsBefore]
  have hTokens := tokenize_of_settled filename
    (digitsLayout hNonempty hDigits) hSettled
  rw [hText] at hTokens
  exact ⟨_, hTokens⟩

/- Zeros in front of digits do not change what they spell. -/
theorem ofDigitChars_zeros
    (k : Nat)
    (ds : List Char) :
    Nat.ofDigitChars 10 (List.replicate k '0' ++ ds) 0 =
      Nat.ofDigitChars 10 ds 0 := by
  rw [Nat.ofDigitChars_append, Nat.ofDigitChars_replicate_zero,
    Nat.mul_zero]

end

end MathScan

------------------------------------------------------------
-- Scanned Numbers
------------------------------------------------------------

namespace MathScan

namespace Token

/-
  Whether a token is given by a scanner in answer to some
  request, whatever else the scanner has been asked.
-/
def Emitted
    (t : Token) : Prop :=
  ∃ source filename mode requests,
    t ∈
      ((Session.ofScanner (.ofChars source filename mode)).run
        requests).flatMap (Session.given ·.answer)

/- The number that the lexeme of a token spells in digits. -/
def spelled
    (t : Token) : Nat :=
  Nat.ofDigitChars 10 t.chars 0

/- Whether a token is emitted as a number with a value. -/
structure ScannedAs
    (t : Token)
    (x : Double) : Prop where
  emitted : t.Emitted
  kind_eq : t.kind = .number
  value_eq : t.value = .number x

variable {t u : Token} {x y : Double}

/- The lexeme of a well-formed number is made of digits. -/
theorem WellFormed.isDigit_of_number
    {mode : NumberMode}
    (hToken : t.WellFormed mode)
    (hKind : t.kind = .number) :
    ∀ d ∈ t.chars, d.isDigit = true := by
  cases hToken with
  | symbol hSymbol => cases hKind
  | name hNonempty hBlank hSymbol hDigit hQuote => cases hKind
  | string hContent => cases hKind
  | number hNonempty hDigits hWidth hValue =>
      rw [chars_ofNumber]
      exact hDigits

theorem Emitted.exists_wellFormed
    (hEmitted : t.Emitted) :
    ∃ mode, t.WellFormed mode := by
  rcases hEmitted with ⟨_, _, _, _, hMem⟩
  exact Session.wellFormed_of_mem_run hMem

/- An emitted number has the value that its digits spell. -/
theorem Emitted.value_eq
    (hEmitted : t.Emitted)
    (hKind : t.kind = .number) :
    t.value = .number (.ofNat t.spelled) := by
  rcases hEmitted.exists_wellFormed with ⟨mode, hToken⟩
  exact hToken.value_of_number hKind

/- So it is determined by the number that is spelled. -/
theorem ScannedAs.eq_ofNat
    (hScanned : t.ScannedAs x) :
    x = .ofNat t.spelled := by
  have hValue := hScanned.emitted.value_eq hScanned.kind_eq
  rw [hScanned.value_eq] at hValue
  exact Value.number.inj hValue

/-
  Scanned numbers are rounded. The conversion accepts digits,
  however many, and a text of them is one number with the
  nearest double as its value. Each number that is emitted has
  such digits for its lexeme and is converted from them. Zeros
  in front make no difference, and no larger number has a
  lesser value.
-/
theorem scanned_numbers_rounded :
    (∀ ds : List Char, ds ≠ [] →
      (∀ d ∈ ds, d.isDigit = true) →
        ∃ x,
          Double.ofArgument? (.text (String.ofList ds)) =
              .ok x ∧
            x.RoundedFrom (Nat.ofDigitChars 10 ds 0) ∧
            ∀ filename, ∃ place,
              tokenize (String.ofList ds) filename .greedy =
                .ok [ofNumber x (String.ofList ds) place]) ∧
      (∀ t : Token, t.Emitted → t.kind = .number →
        (t.chars ≠ [] ∧ ∀ d ∈ t.chars, d.isDigit = true) ∧
          ∃ x, Double.ofArgument? (.text t.lexeme) = .ok x ∧
            t.value = .number x ∧ x.RoundedFrom t.spelled) ∧
      ∀ (t u : Token) (x y : Double),
        t.ScannedAs x → u.ScannedAs y →
          (∀ k, u.chars = List.replicate k '0' ++ t.chars →
            y = x) ∧
            (t.spelled ≤ u.spelled → x.AtMost y) := by
  refine ⟨?_, ?_, ?_⟩
  · intro ds hNonempty hDigits
    refine ⟨_, Double.ofArgument?_digits hNonempty hDigits,
      Double.roundedFrom_ofNat _, ?_⟩
    intro filename
    rcases tokenize_digits hNonempty hDigits filename with
      ⟨place, hTokens⟩
    exact ⟨some place, hTokens⟩
  · intro t hEmitted hKind
    rcases hEmitted.exists_wellFormed with ⟨mode, hToken⟩
    have hNonempty := hToken.chars_ne_nil
    have hDigits := hToken.isDigit_of_number hKind
    have hConverted := Double.ofArgument?_digits hNonempty hDigits
    have hLexeme : String.ofList t.chars = t.lexeme :=
      String.ofList_toList
    rw [hLexeme] at hConverted
    exact ⟨⟨hNonempty, hDigits⟩, _, hConverted,
      hEmitted.value_eq hKind, Double.roundedFrom_ofNat _⟩
  · intro t u x y hFirst hSecond
    rw [hFirst.eq_ofNat, hSecond.eq_ofNat]
    refine ⟨?_, Double.atMost_ofNat⟩
    intro k hZeros
    rw [spelled, hZeros, ofDigitChars_zeros, spelled]

end Token

end MathScan

------------------------------------------------------------
-- Numbers Built by Hand
------------------------------------------------------------

namespace MathScan

namespace Double

variable {n : Nat} {y : Double}

/- An integer stands for what it is rounded to. -/
theorem ofArgument?_integer
    (k : Int) :
    ofArgument? (.integer k) =
      (ofInt? k).elim (.error .tooLarge) .ok := by
  rw [ofArgument?.eq_def]
  -- the rounding, which is not to be evaluated, is hidden
  obtain ⟨round, hRound⟩ : ∃ round, round = ofInt? := ⟨_, rfl⟩
  rw [← hRound]
  clear hRound
  cases hRounded : round k with
  | none => simp only [hRounded, Option.elim_none]
  | some x => simp only [hRounded, Option.elim_some]

/- A natural number is rounded without a sign. -/
theorem ofInt?_natural
    (n : Nat) :
    ofInt? n = (Magnitude.ofRatio? n 1).map (.finite false) := by
  have hSign : decide ((n : Int) < 0) = false := by
    simp
  rw [ofInt?, hSign, Int.natAbs_natCast]

/- A number that is some double's value is not rounded. -/
theorem value?_ofNat
    (hValue : y.value? = some (n : ℚ)) :
    (ofNat n).value? = some (n : ℚ) := by
  have hInteger : y.value? = some ((n : Int) : ℚ) := by
    rw [hValue, Int.cast_natCast]
  rcases exists_ofRatio?_of_value? hInteger with
    ⟨m, hRatio, hSame⟩
  have hSign : decide ((n : Int) < 0) = false := by
    simp
  rw [hSign, Int.cast_natCast] at hSame
  rw [Int.natAbs_natCast] at hRatio
  rw [ofNat, hRatio]
  exact hSame

/- The lexeme of a rounded number shows if it is rounded. -/
theorem lexeme_ofNat_eq_iff :
    (ofNat n).lexeme = toString n ↔
      ∃ y : Double, y.value? = some (n : ℚ) := by
  constructor
  · intro hLexeme
    have hText :
        IsIntegerText (ofNat n).lexeme.toList := by
      rw [hLexeme]
      exact isIntegerText_toString n
    rcases isIntegerText_lexeme_iff.mp hText with ⟨k, hValue⟩
    rw [lexeme_of_value? hValue] at hLexeme
    have hSame : k = n := Int.repr_inj.mp hLexeme
    rw [hSame, Int.cast_natCast] at hValue
    exact ⟨_, hValue⟩
  · rintro ⟨y, hValue⟩
    have hOwn := value?_ofNat hValue
    rw [← Int.cast_natCast] at hOwn
    exact lexeme_of_value? hOwn

end Double

end MathScan

namespace MathScan

namespace Token

variable {n : Nat}

/- The digits of a number are scanned as what it is rounded to. -/
theorem tokenize_toString
    (n : Nat)
    (filename : String) :
    ∃ place,
      tokenize (toString n) filename .greedy =
        .ok [ofNumber (.ofNat n) (toString n) (some place)] := by
  have hNumeral := isNumeral_toDigits n
  rw [Nat.toString_eq_ofList_toDigits]
  rcases tokenize_digits hNumeral.nonempty hNumeral.digits
      filename with
    ⟨place, hTokens⟩
  rw [Nat.ofDigitChars_ten_toDigits] at hTokens
  exact ⟨place, hTokens⟩

/-
  How the token that is built from a natural number agrees
  with a scanned one. It is refused just if the scanned value
  is infinite. Otherwise the values are equal, and the tokens
  are just if the number is the value of a double.
-/
structure AgreesWith
    (t : Token)
    (n : Nat) : Prop where
  refused_iff :
    number? (.integer n) none none = .error .tooLarge ↔
      ∃ negative, t.value = .number (.infinite negative)
  built :
    (¬ ∃ negative, t.value = .number (.infinite negative)) →
      ∃ u, number? (.integer n) none none = .ok u ∧
        u.value.same t.value = true ∧
        (u.same t = true ↔
          ∃ y : Double, y.value? = some (n : ℚ))

/- A number without a magnitude is refused, and infinite. -/
theorem agreesWith_of_large
    (hRatio : Magnitude.ofRatio? n 1 = none)
    (lexeme : String)
    (place : Option Location) :
    (ofNumber (.ofNat n) lexeme place).AgreesWith n := by
  have hRefused :
      number? (.integer n) none none = .error .tooLarge := by
    rw [number?, Double.ofArgument?_integer,
      Double.ofInt?_natural, hRatio]
    rfl
  have hInfinite :
      ∃ negative,
        (ofNumber (.ofNat n) lexeme place).value =
          .number (.infinite negative) := by
    refine ⟨false, ?_⟩
    rw [ofNumber, Double.ofNat, hRatio]
    rfl
  exact
    { refused_iff := iff_of_true hRefused hInfinite
      built := fun hFinite => absurd hInfinite hFinite }

/- Any other number is built as what it is rounded to. -/
theorem agreesWith_of_ofRatio?
    {m : Magnitude}
    (hRatio : Magnitude.ofRatio? n 1 = some m)
    (place : Option Location) :
    (ofNumber (.ofNat n) (toString n) place).AgreesWith n := by
  have hRounded : Double.ofNat n = .finite false m := by
    rw [Double.ofNat, hRatio]
    rfl
  have hGiven :
      Double.ofArgument? (.integer n) = .ok (.ofNat n) := by
    rw [Double.ofArgument?_integer, Double.ofInt?_natural,
      hRatio, hRounded]
    rfl
  have hBuilt :
      number? (.integer n) none none =
        .ok (ofNumber (.ofNat n) (Double.ofNat n).lexeme none) :=
    number?_eq_ok_iff.mpr ⟨_, hGiven, rfl⟩
  have hSame : (Double.ofNat n).same (.ofNat n) = true :=
    Double.same_self (Double.ofMagnitude?_ne_nan false _)
  refine
    { refused_iff := ?_
      built := fun _ => ⟨_, hBuilt, hSame, ?_⟩ }
  · rw [hBuilt, hRounded]
    simp [ofNumber]
  · rw [← Double.lexeme_ofNat_eq_iff]
    simp [Token.same, Value.same, ofNumber, hSame]

/- A double that is a natural number is scanned as it is built. -/
theorem exists_scanned_lexeme
    {v : Double}
    (hValue : v.value? = some (n : ℚ))
    (filename : String) :
    ∃ t, tokenize v.lexeme filename .greedy = .ok [t] ∧
      t.same (ofNumber v v.lexeme none) = true := by
  have hInteger : v.value? = some ((n : Int) : ℚ) := by
    rw [hValue, Int.cast_natCast]
  have hLexeme : v.lexeme = toString n :=
    Double.lexeme_of_value? hInteger
  have hSame : (Double.ofNat n).same v = true :=
    Double.same_of_value? (Double.value?_ofNat hValue) hValue
  rcases tokenize_toString n filename with ⟨place, hTokens⟩
  rw [← hLexeme] at hTokens
  refine ⟨_, hTokens, ?_⟩
  simp [Token.same, Value.same, ofNumber, hSame]

/-
  Number tokens that are built by hand agree with scanned
  ones: from each natural number with the token of its digits,
  and from each double that is a natural number, also from
  minus zero, with the token of its lexeme.
-/
theorem built_numbers_agree
    (filename : String) :
    (∀ n : Nat, ∃ t,
      tokenize (toString n) filename .greedy = .ok [t] ∧
        t.kind = .number ∧ t.lexeme = toString n ∧
        t.AgreesWith n) ∧
      ∀ (v : Double) (k : Nat), v.value? = some (k : ℚ) →
        ∃ u t, number? (.double v) none none = .ok u ∧
          tokenize u.lexeme filename .greedy = .ok [t] ∧
          t.same u = true := by
  constructor
  · intro n
    rcases tokenize_toString n filename with ⟨place, hTokens⟩
    refine ⟨_, hTokens, rfl, rfl, ?_⟩
    cases hRatio : Magnitude.ofRatio? n 1 with
    | none => exact agreesWith_of_large hRatio _ _
    | some m => exact agreesWith_of_ofRatio? hRatio _
  · intro v k hValue
    rcases exists_scanned_lexeme hValue filename with
      ⟨t, hTokens, hSame⟩
    exact
      ⟨_, t, number?_eq_ok_iff.mpr ⟨v, rfl, rfl⟩, hTokens,
        hSame⟩

end Token

end MathScan
