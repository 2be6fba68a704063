import MathScan.Proofs.Guards
import MathScan.Proofs.Nearest
import MathScan.Proofs.ReadBack

/-
  The lexeme that a number token has if none is given. Where
  the double is a whole number, it is this number, written as
  integers are, and nothing else is written like that. In any
  case the lexeme is read as an equal double, which has the
  same lexeme.

  Key definitions include:
    * `IsNumeral`
    * `IsIntegerText`
    * `isMark`

  The key statements are:
    * `Double.integral?_eq_some_iff`
    * `Double.same_of_value?`
    * `Double.exists_read?_lexeme`
    * `Double.isIntegerText_lexeme_iff`
    * `Token.number?_default_lexeme`
-/

------------------------------------------------------------
-- Integers in Text
------------------------------------------------------------

namespace MathScan

/-
  Whether characters are a natural number as it is usually
  written: in digits, with no zero in front of other digits.
-/
structure IsNumeral
    (ds : List Char) : Prop where
  nonempty : ds ≠ []
  digits : ∀ d ∈ ds, d.isDigit = true
  no_leading_zero : ds.head? = some '0' → ds = ['0']

/- The same for an integer, which may have a minus in front. -/
def IsIntegerText
    (cs : List Char) : Prop :=
  ∃ negative ds, cs = Double.withSign negative ds ∧ IsNumeral ds

theorem isNumeral_toDigits
    (n : Nat) :
    IsNumeral (Nat.toDigits 10 n) := by
  refine
    { nonempty := Nat.toDigits_ne_nil
      digits := fun _ => Decimal.isDigit_of_mem_toDigits
      no_leading_zero := ?_ }
  induction n using Nat.strong_induction_on with
  | _ n ih =>
      rcases Nat.lt_or_ge n 10 with hOne | hMore
      · rw [Nat.toDigits_of_lt_base hOne]
        intro hZero
        rw [Option.some.inj hZero]
      · -- the first digit is that of a tenth, which is not zero
        intro hZero
        rw [Nat.toDigits_of_base_le (by decide) hMore,
          List.head?_append_of_ne_nil _ Nat.toDigits_ne_nil]
          at hZero
        have hTenth := ih (n / 10) (by omega) hZero
        have hValue :=
          Nat.ofDigitChars_ten_toDigits (n := n / 10)
        rw [hTenth] at hValue
        change 0 = n / 10 at hValue
        omega

/- An integer is written as its sign and its digits. -/
theorem toList_toString
    (k : Int) :
    (toString k).toList =
      Double.withSign (k < 0) (Nat.toDigits 10 k.natAbs) := by
  cases k with
  | ofNat n => exact Nat.toList_repr
  | negSucc n =>
      change ("-" ++ (n + 1).repr).toList = _
      rw [String.toList_append, Nat.toList_repr]
      simp [Double.withSign]

theorem isIntegerText_toString
    (k : Int) :
    IsIntegerText (toString k).toList :=
  ⟨decide (k < 0), Nat.toDigits 10 k.natAbs, toList_toString k,
    isNumeral_toDigits k.natAbs⟩

/- Whether a character is part of no integer. -/
def isMark
    (c : Char) : Bool :=
  c != '-' && !c.isDigit

/- There is nothing but digits in an integer, and a minus. -/
theorem IsIntegerText.isMark_of_mem
    {cs : List Char}
    (hInteger : IsIntegerText cs)
    {c : Char}
    (hMem : c ∈ cs) :
    isMark c = false := by
  rcases hInteger with ⟨negative, ds, rfl, hNumeral⟩
  have hDigit (hMem : c ∈ ds) : isMark c = false := by
    simp [isMark, hNumeral.digits c hMem]
  cases negative with
  | true =>
      rcases List.mem_cons.mp hMem with rfl | hMore
      · rfl
      · exact hDigit hMore
  | false => exact hDigit hMem

end MathScan

------------------------------------------------------------
-- Reading Integers
------------------------------------------------------------

namespace MathScan

namespace Double

/- An integer is read as what it is rounded to. -/
theorem read?_toString
    (k : Int) :
    read? (toString k).toList =
      some
        (ofMagnitude? (k < 0)
          (Magnitude.ofRatio? k.natAbs 1)) := by
  have hNumeral := isNumeral_toDigits k.natAbs
  rw [toList_toString,
    read?_withSign_digits hNumeral.nonempty hNumeral.digits,
    Nat.ofDigitChars_ten_toDigits]

end Double

end MathScan

------------------------------------------------------------
-- Equal Doubles
------------------------------------------------------------

namespace MathScan

namespace Magnitude

theorem value_injective :
    Function.Injective value := by
  intro m k hValues
  rcases m with ⟨rank, hRank⟩
  rcases k with ⟨other, hOther⟩
  have hRanks : rank = other :=
    strictMono_valueOf.injective hValues
  subst hRanks
  rfl

/- A magnitude is a whole number if its quanta make up ones. -/
theorem value_eq_natCast_iff
    {m : Magnitude}
    {n : Nat} :
    m.value = n ↔ m.quanta = n * quantaInOne := by
  have hOne := cast_quantaInOne_pos
  rw [value, div_eq_iff hOne.ne', ← Nat.cast_mul, Nat.cast_inj]

end Magnitude

namespace Double

variable {x y : Double} {v : ℚ} {k : Int}

/- The value of a finite double, by its amount and its sign. -/
theorem value?_finite_eq_some_iff
    {negative : Bool}
    {m : Magnitude} :
    (finite negative m).value? = some v ↔
      m.value = |v| ∧ v = if negative then -|v| else |v| := by
  have hSign := m.value_nonneg
  cases negative with
  | true =>
      change some (-m.value) = some v ↔ m.value = |v| ∧ v = -|v|
      rw [Option.some.injEq]
      constructor
      · intro hValue
        rw [← hValue, abs_neg, abs_of_nonneg hSign]
        exact ⟨rfl, rfl⟩
      · rintro ⟨hAmount, hNegative⟩
        rw [hAmount]
        exact hNegative.symm
  | false =>
      change some m.value = some v ↔ m.value = |v| ∧ v = |v|
      rw [Option.some.injEq]
      constructor
      · intro hValue
        rw [← hValue, abs_of_nonneg hSign]
        exact ⟨rfl, rfl⟩
      · rintro ⟨hAmount, hPositive⟩
        rw [hAmount]
        exact hPositive.symm

/- Doubles with one value are equal. -/
theorem same_of_value?
    (hFirst : x.value? = some v)
    (hSecond : y.value? = some v) :
    x.same y = true := by
  cases x with
  | nan => cases hFirst
  | infinite negative => cases hFirst
  | finite negative m =>
      cases y with
      | nan => cases hSecond
      | infinite other => cases hSecond
      | finite other n =>
          rcases value?_finite_eq_some_iff.mp hFirst with
            ⟨hAmount, hSign⟩
          rcases value?_finite_eq_some_iff.mp hSecond with
            ⟨hOtherAmount, hOtherSign⟩
          have hSame : m = n :=
            Magnitude.value_injective
              (hAmount.trans hOtherAmount.symm)
          subst hSame
          have hEither : negative = other ∨ m = .zero := by
            by_cases hSigns : negative = other
            · exact .inl hSigns
            · -- only zero is equal to its opposite
              have hBoth := hSign.symm.trans hOtherSign
              have hNone : |v| = 0 := by
                cases negative with
                | true =>
                    cases other with
                    | true => exact absurd rfl hSigns
                    | false => exact neg_eq_self.mp hBoth
                | false =>
                    cases other with
                    | true => exact self_eq_neg.mp hBoth
                    | false => exact absurd rfl hSigns
              rw [hNone, ← Magnitude.value_zero] at hAmount
              exact .inr (Magnitude.value_injective hAmount)
          simpa [same] using hEither

/- The value of a double that is the integer `k`. -/
theorem value?_finite_eq_iff
    {negative : Bool}
    {m : Magnitude} :
    (finite negative m).value? = some (k : ℚ) ↔
      m.quanta = k.natAbs * Magnitude.quantaInOne ∧
        k = signed negative k.natAbs := by
  have hSigned :
      ((signed negative k.natAbs : Int) : ℚ) =
        if negative then -|(k : ℚ)| else |(k : ℚ)| := by
    cases negative with
    | true => simp [signed]
    | false => simp [signed]
  rw [value?_finite_eq_some_iff,
    ← Magnitude.value_eq_natCast_iff, Nat.cast_natAbs,
    Int.cast_abs, ← hSigned, Int.cast_inj]

/-
  A quotient without a remainder, with a sign, is the integer
  that gives the dividend back.
-/
theorem signed_quotient_eq_some_iff
    {a b : Nat}
    (hPos : 0 < b)
    (negative : Bool) :
    (if a % b = 0 then some (signed negative (a / b)) else none) =
        some k ↔
      a = k.natAbs * b ∧ k = signed negative k.natAbs := by
  constructor
  · intro hQuotient
    split at hQuotient
    · rename_i hWhole
      cases hQuotient
      have hAbs : (signed negative (a / b)).natAbs = a / b := by
        unfold signed
        split
        · exact Int.natAbs_neg _
        · rfl
      rw [hAbs]
      exact
        ⟨(Nat.div_mul_cancel (Nat.dvd_of_mod_eq_zero hWhole)).symm,
          rfl⟩
    · cases hQuotient
  · rintro ⟨hProduct, hInteger⟩
    rw [hProduct, Nat.mul_mod_left, if_pos rfl,
      Nat.mul_div_cancel _ hPos, ← hInteger]

/- The integer that a double is equal to is its value. -/
theorem integral?_eq_some_iff :
    x.integral? = some k ↔ x.value? = some (k : ℚ) := by
  cases x with
  | nan => exact ⟨nofun, nofun⟩
  | infinite negative => exact ⟨nofun, nofun⟩
  | finite negative m =>
      rw [value?_finite_eq_iff]
      exact
        signed_quotient_eq_some_iff Magnitude.quantaInOne_pos
          negative

end Double

end MathScan

------------------------------------------------------------
-- Lexemes of Doubles
------------------------------------------------------------

namespace MathScan

namespace Double

variable {x y : Double} {k : Int}

/- The lexeme of a whole number is this number. -/
theorem lexeme_of_value?
    (hValue : x.value? = some (k : ℚ)) :
    x.lexeme = toString k := by
  rw [lexeme, integral?_eq_some_iff.mpr hValue]

/- Minus zero is the integer zero, which has no sign. -/
example : (finite true .zero).lexeme = "0" := by
  decide +kernel

/- The lexeme of any other double is its text. -/
theorem lexeme_of_no_integer
    (hNone : ¬ ∃ k : Int, x.value? = some (k : ℚ)) :
    x.lexeme = x.text := by
  cases hIntegral : x.integral? with
  | none => rw [lexeme, hIntegral]
  | some k =>
      exact absurd ⟨k, integral?_eq_some_iff.mp hIntegral⟩ hNone

/- An integer that is a double's value is not rounded. -/
theorem exists_ofRatio?_of_value?
    (hValue : x.value? = some (k : ℚ)) :
    ∃ m, Magnitude.ofRatio? k.natAbs 1 = some m ∧
      (finite (k < 0) m).value? = some (k : ℚ) := by
  cases x with
  | nan => cases hValue
  | infinite negative => cases hValue
  | finite negative m =>
      have hQuanta := (value?_finite_eq_iff.mp hValue).1
      have hMagnitude :=
        Magnitude.value_eq_natCast_iff.mpr hQuanta
      refine ⟨m, ?_, ?_⟩
      · apply Magnitude.ofRatio?_of_value Nat.one_pos
        rw [hMagnitude, Nat.cast_one, div_one]
      · rw [value?_finite_eq_iff, signed_natAbs]
        exact ⟨hQuanta, rfl⟩

/- It is read from its text as a double with this value. -/
theorem exists_read?_toString
    (hValue : x.value? = some (k : ℚ)) :
    ∃ y, read? (toString k).toList = some y ∧
      y.value? = some (k : ℚ) := by
  rcases exists_ofRatio?_of_value? hValue with
    ⟨m, hRatio, hSame⟩
  refine ⟨_, ?_, hSame⟩
  rw [read?_toString, hRatio]
  rfl

/-
  The lexeme of a double is read as an equal double, which has
  the same lexeme.
-/
theorem exists_read?_lexeme
    (hNumber : x ≠ .nan) :
    ∃ y, read? x.lexeme.toList = some y ∧
      y.lexeme = x.lexeme ∧ y.same x = true := by
  by_cases hInteger : ∃ k : Int, x.value? = some (k : ℚ)
  · rcases hInteger with ⟨k, hValue⟩
    rcases exists_read?_toString hValue with ⟨y, hRead, hSame⟩
    refine ⟨y, ?_, ?_, same_of_value? hSame hValue⟩
    · rw [lexeme_of_value? hValue, hRead]
    · rw [lexeme_of_value? hValue, lexeme_of_value? hSame]
  · refine ⟨x, ?_, rfl, same_self hNumber⟩
    rw [lexeme_of_no_integer hInteger, text, String.toList_ofList,
      read?_chars]

end Double

end MathScan

------------------------------------------------------------
-- Lexemes That Are No Integers
------------------------------------------------------------

namespace MathScan

namespace Decimal

/- The text of a decimal number has a point or an exponent. -/
theorem exists_mark_text
    (x : Decimal) :
    ∃ c ∈ x.text, isMark c = true := by
  simp only [text]
  split
  · refine ⟨'.', ?_, rfl⟩
    unfold positional
    split
    · simp
    split
    · simp
    · simp
  · refine ⟨'e', ?_, rfl⟩
    simp [scientific, exponentText]

end Decimal

namespace Double

variable {x : Double}

/- The text of a double is never that of an integer. -/
theorem exists_mark_chars
    (x : Double) :
    ∃ c ∈ x.chars, isMark c = true := by
  have hSign
      {cs : List Char}
      (negative : Bool)
      (hMark : ∃ c ∈ cs, isMark c = true) :
      ∃ c ∈ withSign negative cs, isMark c = true := by
    rcases hMark with ⟨c, hMem, hMark⟩
    refine ⟨c, ?_, hMark⟩
    cases negative with
    | true => exact List.mem_cons_of_mem _ hMem
    | false => exact hMem
  cases x with
  | nan => exact ⟨'n', by decide, rfl⟩
  | infinite negative =>
      exact hSign negative ⟨'n', by decide, rfl⟩
  | finite negative m =>
      apply hSign negative
      unfold Magnitude.text
      split
      · exact ⟨'.', by decide, rfl⟩
      · exact m.shortest.exists_mark_text

/- The lexeme of a double is an integer if the double is one. -/
theorem isIntegerText_lexeme_iff :
    IsIntegerText x.lexeme.toList ↔
      ∃ k : Int, x.value? = some (k : ℚ) := by
  constructor
  · intro hText
    by_contra hNone
    rw [lexeme_of_no_integer hNone, text, String.toList_ofList]
      at hText
    rcases x.exists_mark_chars with ⟨c, hMem, hMark⟩
    rw [hText.isMark_of_mem hMem] at hMark
    cases hMark
  · rintro ⟨k, hValue⟩
    rw [lexeme_of_value? hValue]
    exact isIntegerText_toString k

end Double

end MathScan

------------------------------------------------------------
-- Number Tokens Without a Given Lexeme
------------------------------------------------------------

namespace MathScan

/-
  What the lexeme of a double is like: an integer if the
  double is one, and the text of the double otherwise.
-/
structure Double.WrittenAs
    (x : Double)
    (lexeme : String) : Prop where
  integer_iff :
    IsIntegerText lexeme.toList ↔
      ∃ k : Int, x.value? = some (k : ℚ)
  integer :
    ∀ k : Int, x.value? = some (k : ℚ) → lexeme = toString k
  no_integer :
    (¬ ∃ k : Int, x.value? = some (k : ℚ)) → lexeme = x.text

theorem Double.writtenAs_lexeme
    (x : Double) :
    x.WrittenAs x.lexeme :=
  { integer_iff := isIntegerText_lexeme_iff
    integer := fun _ hValue => lexeme_of_value? hValue
    no_integer := lexeme_of_no_integer }

namespace Token

/-
  Whether a number token that is built from the lexeme of a
  token, wherever it stands, is equal to the token.
-/
def ReadsBack
    (t : Token) : Prop :=
  ∀ place, ∃ u,
    number? (.text t.lexeme) none place = .ok u ∧
      u.same t = true

/- A number token is built from a double with its own lexeme. -/
theorem number?_eq_ok_iff
    {given : Argument}
    {place : Option Location}
    {t : Token} :
    number? given none place = .ok t ↔
      ∃ x, Double.ofArgument? given = .ok x ∧
        t = ofNumber x x.lexeme place := by
  unfold number?
  cases Double.ofArgument? given with
  | error e => simp [Except.map]
  | ok x => simp [Except.map, eq_comm]

/- The own lexeme of a double reads back. -/
theorem readsBack_ofNumber
    {x : Double}
    (hNumber : x ≠ .nan)
    (place : Option Location) :
    (ofNumber x x.lexeme place).ReadsBack := by
  intro elsewhere
  rcases Double.exists_read?_lexeme hNumber with
    ⟨y, hRead, hLexeme, hSame⟩
  refine
    ⟨_, number?_eq_ok_iff.mpr
      ⟨y, Double.ofArgument?_text hRead, rfl⟩, ?_⟩
  simp [Token.same, Value.same, ofNumber, hLexeme, hSame]

/-
  Whatever a number token is built from, if no lexeme is
  given, its lexeme is an integer just if its value is one,
  and unless this is NaN the lexeme reads back.
-/
theorem number?_default_lexeme
    {given : Argument}
    {place : Option Location}
    {t : Token}
    (hBuilt : number? given none place = .ok t) :
    ∃ x, Double.ofArgument? given = .ok x ∧
      t.value = .number x ∧ x.WrittenAs t.lexeme ∧
      (x ≠ .nan → t.ReadsBack) := by
  rcases number?_eq_ok_iff.mp hBuilt with ⟨x, hGiven, rfl⟩
  exact
    ⟨x, hGiven, rfl, x.writtenAs_lexeme,
      fun hNumber => readsBack_ofNumber hNumber place⟩

/- A text with an exponent, whose token has a plain integer. -/
theorem number?_default_lexeme_exponent :
    let given : Argument := .text "-1e22"
    let x := Double.ofDecimal true ⟨1, 22⟩
    let t := ofNumber x "-10000000000000000000000" none
    number? given none none = .ok t ∧
      ∃ x, Double.ofArgument? given = .ok x ∧
        t.value = .number x ∧ x.WrittenAs t.lexeme ∧
        (x ≠ .nan → t.ReadsBack) := by
  intro given x t
  have hRead : Double.read? "-1e22".toList = some x := by
    decide +kernel
  have hLexeme : "-10000000000000000000000" = x.lexeme := by
    decide +kernel
  have hGiven : Double.ofArgument? given = .ok x :=
    Double.ofArgument?_text hRead
  have hBuilt : number? given none none = .ok t :=
    number?_eq_ok_iff.mpr
      ⟨x, hGiven, congrArg (ofNumber x · none) hLexeme⟩
  exact ⟨hBuilt, number?_default_lexeme hBuilt⟩

end Token

end MathScan
