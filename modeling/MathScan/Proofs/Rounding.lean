import Mathlib
import MathScan.Double.Shortest

/-
  Rounding by value. What a quotient or a decimal number is
  rounded to depends on its value alone, however it is
  written, and the value of a magnitude is rounded to the
  magnitude itself.

  Key definitions include:
    * `Decimal.value`
    * `Magnitude.value`

  The key statements are:
    * `Magnitude.ofDecimal?_eq_ofRatio?`
    * `Magnitude.ofDecimal?_congr`
    * `Magnitude.ofDecimal?_of_value`
-/

------------------------------------------------------------
-- Quotients
------------------------------------------------------------

namespace MathScan

/- A quotient without a remainder is not rounded. -/
theorem divEven_mul_left
    (k : Nat)
    {b : Nat}
    (hPos : 0 < b) :
    divEven (k * b) b = k := by
  simp [divEven, hPos]

/- A common factor of a quotient makes no difference. -/
theorem divEven_mul_mul_right
    (a b : Nat)
    {k : Nat}
    (hPos : 0 < k) :
    divEven (a * k) (b * k) = divEven a b := by
  have hBelow :
      2 * (a % b * k) < b * k ↔ 2 * (a % b) < b := by
    rw [← Nat.mul_assoc]
    exact Nat.mul_lt_mul_right hPos
  have hAbove :
      b * k < 2 * (a % b * k) ↔ b < 2 * (a % b) := by
    rw [← Nat.mul_assoc]
    exact Nat.mul_lt_mul_right hPos
  simp only [divEven, Nat.mul_mod_mul_right,
    Nat.mul_div_mul_right a b hPos, hBelow, hAbove]

/- A quotient below a half is rounded to zero. -/
theorem divEven_eq_zero
    {a b : Nat}
    (hSmall : 2 * a < b) :
    divEven a b = 0 := by
  have hLess : a < b := by
    omega
  simp [divEven, Nat.mod_eq_of_lt hLess,
    Nat.div_eq_of_lt hLess, hSmall]

end MathScan

------------------------------------------------------------
-- Ranks
------------------------------------------------------------

namespace MathScan

/- A common factor of a quotient makes no difference. -/
theorem roundedRank_mul_mul_right
    (num den : Nat)
    {k : Nat}
    (hPos : 0 < k) :
    roundedRank (num * k) (den * k) = roundedRank num den := by
  have hQuanta :
      num * k * Magnitude.quantaInOne =
        num * Magnitude.quantaInOne * k := by
    ring
  have hStep (shift : Nat) :
      den * k * Nat.pow 2 shift =
        den * Nat.pow 2 shift * k := by
    ring
  simp only [roundedRank, hQuanta, hStep,
    Nat.mul_div_mul_right _ _ hPos,
    divEven_mul_mul_right _ _ hPos]

/- Equal quotients have the same rank. -/
theorem roundedRank_congr
    {num den num' den' : Nat}
    (hDen : 0 < den)
    (hDen' : 0 < den')
    (hValue : (num : ℚ) / den = num' / den') :
    roundedRank num den = roundedRank num' den' := by
  have hCross : num * den' = num' * den := by
    rw [div_eq_div_iff (by positivity) (by positivity)]
      at hValue
    exact_mod_cast hValue
  calc
    roundedRank num den =
        roundedRank (num * den') (den * den') :=
      (roundedRank_mul_mul_right num den hDen').symm
    _ = roundedRank (num' * den) (den' * den) := by
      rw [hCross, Nat.mul_comm den den']
    _ = roundedRank num' den' :=
      roundedRank_mul_mul_right num' den' hDen

theorem roundedRank_zero
    (den : Nat) :
    roundedRank 0 den = 0 := by
  simp [roundedRank, divEven]

/- A quotient below half a quantum has the rank zero. -/
theorem roundedRank_eq_zero
    {num den : Nat}
    (hSmall : 2 * (num * Magnitude.quantaInOne) < den) :
    roundedRank num den = 0 := by
  have hLess : num * Magnitude.quantaInOne < den := by
    omega
  have hNone : divEven (num * Magnitude.quantaInOne) den = 0 :=
    divEven_eq_zero hSmall
  have hShift : Nat.log2 0 - 52 = 0 := by
    decide
  simp only [roundedRank, Nat.div_eq_of_lt hLess, hShift]
  change divEven _ (den * 1) + 0 * _ = 0
  rw [Nat.mul_one, hNone, Nat.zero_mul]

/- A large number of quanta has a large rank. -/
theorem le_roundedRank_one
    {num shift : Nat}
    (hLarge :
      2 ^ (52 + shift) ≤ num * Magnitude.quantaInOne) :
    shift * Magnitude.octave ≤ roundedRank num 1 := by
  have hNonzero : num * Magnitude.quantaInOne ≠ 0 := by
    have hPos := Nat.two_pow_pos (52 + shift)
    omega
  have hLog :
      52 + shift ≤ (num * Magnitude.quantaInOne).log2 :=
    (Nat.le_log2 hNonzero).mpr hLarge
  have hShift :
      shift ≤ (num * Magnitude.quantaInOne).log2 - 52 := by
    omega
  have hOctaves := Nat.mul_le_mul_right Magnitude.octave hShift
  simp only [roundedRank, Nat.div_one]
  omega

end MathScan

------------------------------------------------------------
-- Magnitudes
------------------------------------------------------------

namespace MathScan

namespace Magnitude

def value
    (m : Magnitude) : ℚ :=
  m.quanta / quantaInOne

theorem quantaInOne_eq :
    quantaInOne = 2 ^ 1074 := by
  decide +kernel

theorem quantaInOne_pos :
    0 < quantaInOne := by
  decide +kernel

/-
  The steps between neighbours that reach a rank: fewer than
  2 ^ 53, and at least half of them unless the steps are
  single quanta.
-/
theorem rank_steps_bounds
    (rank : Nat) :
    (rank / octave - 1) * octave ≤ rank ∧
      rank - (rank / octave - 1) * octave < 2 * octave ∧
      (rank / octave - 1 = 0 ∨
        octave ≤ rank - (rank / octave - 1) * octave) := by
  have hOctave : 0 < octave := by
    decide
  have hDivision := Nat.div_add_mod rank octave
  have hRest := Nat.mod_lt rank hOctave
  rcases Nat.lt_or_ge (rank / octave) 1 with hFirst | hLater
  · have hNone : rank / octave = 0 :=
      Nat.lt_one_iff.mp hFirst
    rw [hNone] at hDivision ⊢
    omega
  · rcases Nat.exists_eq_add_of_le' hLater with ⟨k, hOctaves⟩
    rw [hOctaves, Nat.mul_add, Nat.mul_one, Nat.mul_comm]
      at hDivision
    simp only [hOctaves, Nat.add_sub_cancel]
    omega

/- The same for the rank of a magnitude. -/
theorem steps_bounds
    (m : Magnitude) :
    m.shift * octave ≤ m.rank ∧
      m.rank - m.shift * octave < 2 * octave ∧
      (m.shift = 0 ∨ octave ≤ m.rank - m.shift * octave) :=
  rank_steps_bounds m.rank

/- The length of a magnitude's quanta tells its shift. -/
theorem log2_quanta
    (m : Magnitude) :
    m.quanta.log2 - 52 = m.shift := by
  rcases m.steps_bounds with ⟨_, hBelow, hFirst | hAbove⟩
  · have hQuanta : m.quanta < 2 ^ 53 := by
      simpa [quanta, hFirst, octave] using hBelow
    by_cases hZero : m.quanta = 0
    · rw [hZero, hFirst]
      decide
    · have hLog := (Nat.log2_lt hZero).mpr hQuanta
      omega
  · have hLog : m.quanta.log2 = 52 + m.shift := by
      have hPos : 0 < 2 ^ m.shift := Nat.two_pow_pos _
      have hLower :
          2 ^ (52 + m.shift) ≤ m.quanta := by
        rw [pow_add]
        exact Nat.mul_le_mul_right _ hAbove
      have hUpper :
          m.quanta < 2 ^ (52 + m.shift + 1) := by
        rw [show 52 + m.shift + 1 = 53 + m.shift by omega,
          pow_add]
        exact Nat.mul_lt_mul_of_pos_right hBelow hPos
      have hNonzero : m.quanta ≠ 0 := by
        have hPower := Nat.two_pow_pos (52 + m.shift)
        omega
      exact (Nat.log2_eq_iff hNonzero).mpr ⟨hLower, hUpper⟩
    omega

/- The rank of a quotient that is a magnitude's value. -/
theorem roundedRank_of_value
    {m : Magnitude}
    {num den : Nat}
    (hDen : 0 < den)
    (hValue : (num : ℚ) / den = m.value) :
    roundedRank num den = m.rank := by
  have hQuanta :
      num * quantaInOne = m.quanta * den := by
    have hOne : (0 : ℚ) < quantaInOne := by
      exact_mod_cast quantaInOne_pos
    rw [value, div_eq_div_iff (by positivity) hOne.ne']
      at hValue
    exact_mod_cast hValue
  have hSteps :
      m.quanta * den =
        (m.rank - m.shift * octave) *
          (den * Nat.pow 2 m.shift) := by
    rw [quanta]
    ring
  have hPos : 0 < den * Nat.pow 2 m.shift :=
    Nat.mul_pos hDen (Nat.pow_pos (by decide))
  simp only [roundedRank, hQuanta, Nat.mul_div_cancel _ hDen,
    log2_quanta]
  rw [hSteps, divEven_mul_left _ hPos]
  exact Nat.sub_add_cancel m.steps_bounds.1

/- A quotient that is a magnitude's value is not rounded. -/
theorem ofRatio?_of_value
    {m : Magnitude}
    {num den : Nat}
    (hDen : 0 < den)
    (hValue : (num : ℚ) / den = m.value) :
    ofRatio? num den = some m := by
  have hRank := roundedRank_of_value hDen hValue
  simp only [ofRatio?, hRank, m.rank_lt, dif_pos]

theorem ofRatio?_congr
    {num den num' den' : Nat}
    (hDen : 0 < den)
    (hDen' : 0 < den')
    (hValue : (num : ℚ) / den = num' / den') :
    ofRatio? num den = ofRatio? num' den' := by
  have hRank := roundedRank_congr hDen hDen' hValue
  simp only [ofRatio?, hRank]

end Magnitude

end MathScan

------------------------------------------------------------
-- Decimal Numbers
------------------------------------------------------------

namespace MathScan

namespace Decimal

def value
    (x : Decimal) : ℚ :=
  x.digits * 10 ^ x.exponent

theorem ratio_pos
    (x : Decimal) :
    0 < x.ratio.2 := by
  unfold ratio
  split
  · exact Nat.one_pos
  · exact Nat.pow_pos (by decide)

/- The quotient of a decimal number has its value. -/
theorem ratio_value
    (x : Decimal) :
    (x.ratio.1 : ℚ) / x.ratio.2 = x.value := by
  rcases x with ⟨digits, exponent⟩
  cases exponent with
  | ofNat n => simp [ratio, value]
  | negSucc n =>
      simp [ratio, value, zpow_negSucc, div_eq_mul_inv]

end Decimal

/- Three powers of two are less than one of ten. -/
theorem two_pow_le_ten_pow
    {k n : Nat}
    (hThird : k ≤ 3 * n) :
    2 ^ k ≤ 10 ^ n :=
  calc
    2 ^ k ≤ 2 ^ (3 * n) :=
      Nat.pow_le_pow_right (by decide) hThird
    _ = 8 ^ n := Nat.pow_mul 2 3 n
    _ ≤ 10 ^ n := Nat.pow_le_pow_left (by decide) n

namespace Magnitude

variable {x : Decimal}

/- No digits are rounded to zero. -/
theorem ofRatio?_of_digits_eq_zero
    (hZero : x.digits = 0) :
    ofRatio? x.ratio.1 x.ratio.2 = some zero := by
  have hNum : x.ratio.1 = 0 := by
    unfold Decimal.ratio
    split
    · simp [hZero]
    · exact hZero
  have hRank := roundedRank_zero x.ratio.2
  simp [ofRatio?, hNum, hRank, zero, count, octave]

/- A decimal number with a large exponent is too big. -/
theorem ofRatio?_of_large
    (hNonzero : ¬ x.digits = 0)
    (hLarge : 400 < x.exponent) :
    ofRatio? x.ratio.1 x.ratio.2 = none := by
  rcases x with ⟨digits, exponent⟩
  change ¬ digits = 0 at hNonzero
  change 400 < exponent at hLarge
  rcases Int.eq_ofNat_of_zero_le (by omega : 0 ≤ exponent) with
    ⟨n, rfl⟩
  have hDigits : 1 ≤ digits :=
    Nat.pos_of_ne_zero hNonzero
  have hQuanta :
      2 ^ (52 + 2047) ≤ digits * 10 ^ n * quantaInOne := by
    rw [quantaInOne_eq]
    calc
      2 ^ (52 + 2047) = 1 * 2 ^ 1025 * 2 ^ 1074 := by
        rw [one_mul, ← pow_add]
      _ ≤ digits * 10 ^ n * 2 ^ 1074 := by
        have hPower : 2 ^ 1025 ≤ 10 ^ n :=
          two_pow_le_ten_pow (by omega)
        gcongr
  have hRank := le_roundedRank_one hQuanta
  have hNot :
      ¬ roundedRank (digits * 10 ^ n) 1 < count :=
    Nat.not_lt.mpr hRank
  exact dif_neg hNot

/- A decimal number with a small exponent is next to zero. -/
theorem ofRatio?_of_small
    (hSmall : x.exponent < -(401 + x.digits.log2)) :
    ofRatio? x.ratio.1 x.ratio.2 = some zero := by
  rcases x with ⟨digits, exponent⟩
  change exponent < -(401 + (digits.log2 : Int)) at hSmall
  cases exponent with
  | ofNat n =>
      have hNatural : Int.ofNat n = n := rfl
      omega
  | negSucc n =>
      have hBelow :
          2 * (digits * quantaInOne) < Nat.pow 10 (n + 1) := by
        rw [quantaInOne_eq]
        calc
          2 * (digits * 2 ^ 1074) <
              2 * (2 ^ (digits.log2 + 1) * 2 ^ 1074) := by
            have hDigits := Nat.lt_log2_self (n := digits)
            gcongr
          _ = 2 ^ (digits.log2 + 1 + 1074 + 1) := by
            rw [← pow_add, ← pow_succ']
          _ ≤ 10 ^ (n + 1) :=
            two_pow_le_ten_pow (by omega)
      have hRank : roundedRank digits (Nat.pow 10 (n + 1)) = 0 :=
        roundedRank_eq_zero hBelow
      simp only [Decimal.ratio, ofRatio?, hRank]
      rfl

/-
  Exponents that are not multiplied out make no difference: a
  decimal number is rounded as the quotient that it is.
-/
theorem ofDecimal?_eq_ofRatio?
    (x : Decimal) :
    ofDecimal? x = ofRatio? x.ratio.1 x.ratio.2 := by
  unfold ofDecimal?
  split
  · rename_i hZero
    exact (ofRatio?_of_digits_eq_zero hZero).symm
  split
  · rename_i hNonzero hLarge
    exact (ofRatio?_of_large hNonzero hLarge).symm
  split
  · rename_i hSmall
    exact (ofRatio?_of_small hSmall).symm
  · rfl

theorem ofDecimal?_congr
    {x y : Decimal}
    (hValue : x.value = y.value) :
    ofDecimal? x = ofDecimal? y := by
  rw [ofDecimal?_eq_ofRatio?, ofDecimal?_eq_ofRatio?]
  apply ofRatio?_congr x.ratio_pos y.ratio_pos
  rw [x.ratio_value, y.ratio_value, hValue]

/- A decimal number that is a magnitude's value is not rounded. -/
theorem ofDecimal?_of_value
    {m : Magnitude}
    (hValue : x.value = m.value) :
    ofDecimal? x = some m := by
  rw [ofDecimal?_eq_ofRatio?]
  apply ofRatio?_of_value x.ratio_pos
  rw [x.ratio_value, hValue]

end Magnitude

end MathScan
