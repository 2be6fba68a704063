import MathScan.Proofs.Rounding

/-
  Rounding goes to the nearest double. The values of ranks
  grow with the ranks, and a quotient is rounded above a rank
  exactly if it lies above the middle between this rank and
  the next, or in the middle and the rank is odd. So no other
  magnitude is nearer, a tie goes to an even significand, a
  larger quotient is not rounded to less, and the quotients
  that are too big are those from the middle above the last
  magnitude.

  Key definitions include:
    * `Magnitude.quantaOf`
    * `Magnitude.significand`
    * `Double.value?`
    * `Double.Nearest`
    * `Double.AtMost`
    * `Double.RoundedFrom`

  The key statements are:
    * `Magnitude.lt_roundedRank_iff`
    * `Magnitude.roundedRank_mono`
    * `Magnitude.ofRatio?_eq_none_iff`
    * `Double.roundedFrom_ofNat`
    * `Double.atMost_ofNat`
-/

------------------------------------------------------------
-- Quotients
------------------------------------------------------------

namespace MathScan

/- A quotient is rounded to one of its two neighbours. -/
theorem divEven_bounds
    (a b : Nat) :
    a / b ≤ divEven a b ∧ divEven a b ≤ a / b + 1 := by
  unfold divEven
  split
  · omega
  split
  · omega
  · omega

/-
  A quotient is rounded up if more than a half is left, and
  from an odd neighbour also if just a half is left.
-/
theorem lt_divEven_iff
    {a b : Nat} :
    a / b < divEven a b ↔
      b < 2 * (a % b) ∨
        b = 2 * (a % b) ∧ a / b % 2 = 1 := by
  unfold divEven
  split
  · omega
  split
  · omega
  · omega

end MathScan

------------------------------------------------------------
-- Values of Ranks
------------------------------------------------------------

namespace MathScan

namespace Magnitude

/- The number of quanta of a rank, as if ranks had no end. -/
def quantaOf
    (rank : Nat) : Nat :=
  (rank - (rank / octave - 1) * octave) *
    2 ^ (rank / octave - 1)

theorem octave_pos :
    0 < octave := by
  decide

/-
  So many steps above the octaves in which the step has been
  doubled. All steps of an octave, up to its end, have the
  same size.
-/
theorem quantaOf_steps
    {steps shift : Nat}
    (hAbove : shift = 0 ∨ octave ≤ steps)
    (hBelow : steps ≤ 2 * octave) :
    quantaOf (steps + shift * octave) = steps * 2 ^ shift := by
  rcases Nat.lt_or_ge steps (2 * octave) with hWithin | hFull
  · have hOctaves : steps / octave < 2 :=
      (Nat.div_lt_iff_lt_mul octave_pos).mpr hWithin
    have hShift :
        (steps + shift * octave) / octave - 1 = shift := by
      rw [Nat.add_mul_div_right _ _ octave_pos]
      rcases hAbove with rfl | hAbove
      · omega
      · have hOne : 1 ≤ steps / octave :=
          (Nat.le_div_iff_mul_le octave_pos).mpr (by omega)
        omega
    rw [quantaOf, hShift, Nat.add_sub_cancel]
  · -- at its end, the octave is the start of the next one
    have hSteps : steps = 2 * octave :=
      Nat.le_antisymm hBelow hFull
    have hShift :
        (steps + shift * octave) / octave - 1 = shift + 1 := by
      rw [hSteps, ← Nat.add_mul,
        Nat.mul_div_cancel _ octave_pos]
      omega
    have hRest :
        steps + shift * octave - (shift + 1) * octave =
          octave := by
      rw [hSteps, Nat.add_mul]
      omega
    rw [quantaOf, hShift, hRest, hSteps, pow_succ]
    ring

/- Every rank is reached by steps in its own octave. -/
theorem exists_steps
    (rank : Nat) :
    ∃ steps shift, rank = steps + shift * octave ∧
      (shift = 0 ∨ octave ≤ steps) ∧ steps < 2 * octave := by
  rcases rank_steps_bounds rank with ⟨hShift, hBelow, hAbove⟩
  exact ⟨_, _, (Nat.sub_add_cancel hShift).symm, hAbove, hBelow⟩

/- Larger ranks have larger values. -/
theorem strictMono_quantaOf :
    StrictMono quantaOf := by
  apply strictMono_nat_of_lt_succ
  intro rank
  rcases exists_steps rank with
    ⟨steps, shift, rfl, hAbove, hBelow⟩
  have hNext :
      quantaOf (steps + 1 + shift * octave) =
        (steps + 1) * 2 ^ shift :=
    quantaOf_steps (hAbove.imp_right Nat.le_succ_of_le) hBelow
  rw [Nat.add_right_comm, hNext,
    quantaOf_steps hAbove hBelow.le]
  exact Nat.mul_lt_mul_of_pos_right (Nat.lt_succ_self steps)
    (Nat.two_pow_pos shift)

end Magnitude

end MathScan

------------------------------------------------------------
-- The Rank of a Quotient
------------------------------------------------------------

namespace MathScan

namespace Magnitude

variable {num den : Nat}

/- The steps of a quotient are those of its octave. -/
theorem quotient_steps_bounds
    (whole : Nat) :
    (whole.log2 - 52 = 0 ∨
        octave ≤ whole / 2 ^ (whole.log2 - 52)) ∧
      whole / 2 ^ (whole.log2 - 52) < 2 * octave := by
  have hPos : 0 < 2 ^ (whole.log2 - 52) := Nat.two_pow_pos _
  constructor
  · by_cases hFirst : whole.log2 - 52 = 0
    · exact .inl hFirst
    · right
      have hNonzero : whole ≠ 0 := by
        rintro rfl
        exact hFirst (by decide)
      apply (Nat.le_div_iff_mul_le hPos).mpr
      calc
        octave * 2 ^ (whole.log2 - 52) =
            2 ^ (52 + (whole.log2 - 52)) := by
          rw [pow_add]
          rfl
        _ = 2 ^ whole.log2 := by
          rw [Nat.add_sub_of_le (by omega)]
        _ ≤ whole := Nat.log2_self_le hNonzero
  · apply (Nat.div_lt_iff_lt_mul hPos).mpr
    calc
      whole < 2 ^ (whole.log2 + 1) := Nat.lt_log2_self
      _ ≤ 2 ^ (53 + (whole.log2 - 52)) :=
        Nat.pow_le_pow_right (by decide) (by omega)
      _ = 2 * octave * 2 ^ (whole.log2 - 52) := by
        rw [pow_add]
        rfl

/-
  A quotient lies between two neighbouring ranks, and it is
  rounded to the upper one from above their middle, and in
  the middle from an odd rank.
-/
theorem exists_neighbours
    (num : Nat)
    (hDen : 0 < den) :
    ∃ lower,
      quantaOf lower * den ≤ num * quantaInOne ∧
      num * quantaInOne < quantaOf (lower + 1) * den ∧
      lower ≤ roundedRank num den ∧
      roundedRank num den ≤ lower + 1 ∧
      (lower < roundedRank num den ↔
        (quantaOf lower + quantaOf (lower + 1)) * den <
            2 * (num * quantaInOne) ∨
          (quantaOf lower + quantaOf (lower + 1)) * den =
              2 * (num * quantaInOne) ∧
            lower % 2 = 1) := by
  let whole := num * quantaInOne / den
  let shift := whole.log2 - 52
  let step := den * 2 ^ shift
  let steps := num * quantaInOne / step
  have hStep : 0 < step :=
    Nat.mul_pos hDen (Nat.two_pow_pos shift)
  have hSteps : steps = whole / 2 ^ shift :=
    (Nat.div_div_eq_div_mul _ _ _).symm
  rcases quotient_steps_bounds whole with ⟨hAbove, hBelow⟩
  change shift = 0 ∨ octave ≤ whole / 2 ^ shift at hAbove
  change whole / 2 ^ shift < 2 * octave at hBelow
  rw [← hSteps] at hAbove hBelow
  have hLower :
      quantaOf (steps + shift * octave) * den =
        steps * step := by
    rw [quantaOf_steps hAbove hBelow.le]
    ring
  have hAboveNext : shift = 0 ∨ octave ≤ steps + 1 := by
    omega
  have hUpper :
      quantaOf (steps + shift * octave + 1) * den =
        (steps + 1) * step := by
    rw [Nat.add_right_comm, quantaOf_steps hAboveNext hBelow]
    ring
  have hRank :
      roundedRank num den =
        divEven (num * quantaInOne) step + shift * octave := rfl
  have hParity :
      (steps + shift * octave) % 2 = steps % 2 := by
    have hEven : octave = 2 * 0x8000000000000 := rfl
    rw [hEven]
    omega
  have hSplit := Nat.div_add_mod (num * quantaInOne) step
  have hLess := Nat.mod_lt (num * quantaInOne) hStep
  have hBounds := divEven_bounds (num * quantaInOne) step
  have hUp :=
    lt_divEven_iff (a := num * quantaInOne) (b := step)
  have hOne : (steps + 1) * step = steps * step + step :=
    Nat.succ_mul steps step
  rw [Nat.mul_comm] at hSplit
  change steps * step + num * quantaInOne % step = _ at hSplit
  change steps ≤ _ ∧ _ ≤ steps + 1 at hBounds
  change steps < _ ↔ _ ∨ _ ∧ steps % 2 = 1 at hUp
  refine ⟨steps + shift * octave, ?_, ?_, ?_, ?_, ?_⟩
  · omega
  · omega
  · omega
  · omega
  · rw [hRank, Nat.add_mul, hLower, hUpper, hOne, hParity,
      Nat.add_lt_add_iff_right, hUp]
    omega

/-
  A quotient is rounded above a rank by twice its quanta: if
  they are more than those of this rank and the next one, or
  as many and the rank is odd.
-/
theorem lt_roundedRank_iff_quanta
    (hDen : 0 < den)
    (rank : Nat) :
    rank < roundedRank num den ↔
      (quantaOf rank + quantaOf (rank + 1)) * den <
          2 * (num * quantaInOne) ∨
        (quantaOf rank + quantaOf (rank + 1)) * den =
            2 * (num * quantaInOne) ∧
          rank % 2 = 1 := by
  rcases exists_neighbours num hDen with
    ⟨lower, hLower, hUpper, hFrom, hTo, hBetween⟩
  have hLess {a b : Nat} (hRanks : a < b) :
      quantaOf a * den < quantaOf b * den :=
    Nat.mul_lt_mul_of_pos_right (strictMono_quantaOf hRanks)
      hDen
  have hNotLess {a b : Nat} (hRanks : a ≤ b) :
      quantaOf a * den ≤ quantaOf b * den :=
    Nat.mul_le_mul_right den
      (strictMono_quantaOf.monotone hRanks)
  have hHere := hLess (Nat.lt_add_one rank)
  rw [Nat.add_mul]
  rcases Nat.lt_trichotomy rank lower with
    hBefore | hSame | hBehind
  · have hNext := hNotLess (Nat.add_one_le_iff.mpr hBefore)
    omega
  · subst hSame
    rw [hBetween, Nat.add_mul]
  · have hNext := hNotLess (Nat.add_one_le_iff.mpr hBehind)
    omega

/- The value of a rank, as if ranks had no end. -/
def valueOf
    (rank : Nat) : ℚ :=
  quantaOf rank / quantaInOne

/- The middle between the values of a rank and the next one. -/
def middle
    (rank : Nat) : ℚ :=
  (valueOf rank + valueOf (rank + 1)) / 2

theorem value_eq
    (m : Magnitude) :
    m.value = valueOf m.rank := rfl

theorem value_zero :
    zero.value = 0 := by
  have hNone : quantaOf zero.rank = 0 := by
    decide
  rw [value_eq, valueOf, hNone, Nat.cast_zero, zero_div]

theorem cast_quantaInOne_pos :
    (0 : ℚ) < quantaInOne := by
  exact_mod_cast quantaInOne_pos

theorem strictMono_valueOf :
    StrictMono valueOf := by
  intro a b hRanks
  apply div_lt_div_of_pos_right _ cast_quantaInOne_pos
  exact_mod_cast strictMono_quantaOf hRanks

/-
  A quotient is rounded above a rank if it lies above the
  middle between this rank and the next one, or in the middle
  and the rank is odd.
-/
theorem lt_roundedRank_iff
    (num : Nat)
    (hDen : 0 < den)
    (rank : Nat) :
    rank < roundedRank num den ↔
      middle rank < (num : ℚ) / den ∨
        middle rank = (num : ℚ) / den ∧ rank % 2 = 1 := by
  have hOne := cast_quantaInOne_pos
  have hDenPos : (0 : ℚ) < den := by
    exact_mod_cast hDen
  rw [lt_roundedRank_iff_quanta hDen, middle, valueOf, valueOf]
  -- the large number of quanta in one is kept folded
  generalize quantaInOne = one at hOne ⊢
  have hMiddle :
      ((quantaOf rank : ℚ) / one +
          quantaOf (rank + 1) / one) / 2 =
        ((quantaOf rank + quantaOf (rank + 1) : Nat) : ℚ) /
          (2 * one) := by
    push_cast
    field_simp
  have hTwoPos : (0 : ℚ) < 2 * one := by
    positivity
  rw [hMiddle, Nat.mul_left_comm,
    div_lt_div_iff₀ hTwoPos hDenPos,
    div_eq_div_iff hTwoPos.ne' hDenPos.ne']
  norm_cast

theorem roundedRank_mono
    {num' den' : Nat}
    (hDen : 0 < den)
    (hDen' : 0 < den')
    (hValue : (num : ℚ) / den ≤ num' / den') :
    roundedRank num den ≤ roundedRank num' den' := by
  by_contra hNot
  have hAbove :=
    (lt_roundedRank_iff num hDen _).mp (Nat.lt_of_not_le hNot)
  apply Nat.lt_irrefl (roundedRank num' den')
  apply (lt_roundedRank_iff num' hDen' _).mpr
  rcases hAbove with hAbove | ⟨hMiddle, hOdd⟩
  · exact .inl (hAbove.trans_le hValue)
  · rw [← hMiddle] at hValue
    rcases hValue.lt_or_eq with hLess | hSame
    · exact .inl hLess
    · exact .inr ⟨hSame, hOdd⟩

end Magnitude

end MathScan

------------------------------------------------------------
-- Distances
------------------------------------------------------------

namespace MathScan

namespace Magnitude

variable {num den rank : Nat}

/-
  A quotient lies above the middle between the rank that it
  is rounded to and any lower one, or in the middle and the
  rank that it is rounded to is even.
-/
theorem middle_lt_of_lt
    (hDen : 0 < den)
    (hBelow : rank < roundedRank num den) :
    (valueOf rank + valueOf (roundedRank num den)) / 2 <
        (num : ℚ) / den ∨
      (valueOf rank + valueOf (roundedRank num den)) / 2 =
          (num : ℚ) / den ∧
        roundedRank num den % 2 = 0 := by
  rcases Nat.exists_eq_add_of_lt hBelow with ⟨k, hRank⟩
  have hNeighbour :=
    (lt_roundedRank_iff num hDen (rank + k)).mp
      (by omega)
  rw [middle, ← hRank] at hNeighbour
  have hNotLess :
      valueOf rank ≤ valueOf (rank + k) :=
    strictMono_valueOf.monotone (Nat.le_add_right rank k)
  rcases hNeighbour with hAbove | ⟨hMiddle, hOdd⟩
  · left
    linarith
  rcases hNotLess.lt_or_eq with hLess | hSame
  · left
    linarith
  · right
    refine ⟨?_, by omega⟩
    rw [hSame]
    exact hMiddle

/- The same for higher ranks, from the other side. -/
theorem lt_middle_of_lt
    (hDen : 0 < den)
    (hAbove : roundedRank num den < rank) :
    (num : ℚ) / den <
        (valueOf rank + valueOf (roundedRank num den)) / 2 ∨
      (num : ℚ) / den =
          (valueOf rank + valueOf (roundedRank num den)) / 2 ∧
        roundedRank num den % 2 = 0 := by
  have hNot :=
    (lt_roundedRank_iff num hDen
      (roundedRank num den)).not.mp (Nat.lt_irrefl _)
  rw [not_or, not_and, not_lt, middle] at hNot
  rcases hNot with ⟨hBelow, hEven⟩
  have hNotLess :
      valueOf (roundedRank num den + 1) ≤ valueOf rank :=
    strictMono_valueOf.monotone hAbove
  rcases hBelow.lt_or_eq with hLess | hMiddle
  · left
    linarith
  rcases hNotLess.lt_or_eq with hLess | hSame
  · left
    linarith
  · right
    have hNotOdd := hEven hMiddle.symm
    refine ⟨?_, by omega⟩
    rw [hMiddle, hSame, add_comm]

/- A number above the middle of two is nearer to the upper. -/
theorem dist_lt_of_middle_lt
    {a b q : ℚ}
    (hLess : a < b)
    (hMiddle : (a + b) / 2 < q) :
    |b - q| < |a - q| := by
  have hBelow : a - q < 0 := by
    linarith
  rw [abs_of_neg hBelow]
  exact abs_lt.mpr ⟨by linarith, by linarith⟩

/- A number below the middle of two is nearer to the lower. -/
theorem dist_lt_of_lt_middle
    {a b q : ℚ}
    (hLess : a < b)
    (hMiddle : q < (a + b) / 2) :
    |a - q| < |b - q| := by
  have hAbove : 0 < b - q := by
    linarith
  rw [abs_of_pos hAbove]
  exact abs_lt.mpr ⟨by linarith, by linarith⟩

theorem dist_eq_of_middle
    {a b q : ℚ}
    (hMiddle : (a + b) / 2 = q) :
    |a - q| = |b - q| := by
  have hOther : a - q = -(b - q) := by
    linarith
  rw [hOther, abs_neg]

/-
  Every other rank is further away from a quotient than the
  rank that it is rounded to, or equally far from it and the
  latter is even.
-/
theorem dist_roundedRank_lt
    (hDen : 0 < den)
    (hOther : rank ≠ roundedRank num den) :
    |valueOf (roundedRank num den) - (num : ℚ) / den| <
        |valueOf rank - (num : ℚ) / den| ∨
      |valueOf (roundedRank num den) - (num : ℚ) / den| =
          |valueOf rank - (num : ℚ) / den| ∧
        roundedRank num den % 2 = 0 := by
  rcases Nat.lt_or_gt_of_ne hOther with hBelow | hAbove
  · have hLess := strictMono_valueOf hBelow
    rcases middle_lt_of_lt hDen hBelow with
      hMiddle | ⟨hMiddle, hEven⟩
    · exact .inl (dist_lt_of_middle_lt hLess hMiddle)
    · exact .inr ⟨(dist_eq_of_middle hMiddle).symm, hEven⟩
  · have hLess := strictMono_valueOf hAbove
    rcases lt_middle_of_lt hDen hAbove with
      hMiddle | ⟨hMiddle, hEven⟩
    · rw [add_comm] at hMiddle
      exact .inl (dist_lt_of_lt_middle hLess hMiddle)
    · exact .inr ⟨(dist_eq_of_middle hMiddle.symm).symm, hEven⟩

end Magnitude

end MathScan

------------------------------------------------------------
-- Magnitudes of Quotients
------------------------------------------------------------

namespace MathScan

namespace Magnitude

variable {num den n : Nat} {m : Magnitude}

/- A magnitude of a quotient has the rank of the quotient. -/
theorem rank_of_ofRatio?
    (hRatio : ofRatio? num den = some m) :
    m.rank = roundedRank num den := by
  unfold ofRatio? at hRatio
  split at hRatio
  · rw [← Option.some.inj hRatio]
  · cases hRatio

/-
  The first number that is too big: the middle between the
  last magnitude and the next power of two.
-/
def limit : Nat :=
  2 ^ 1024 - 2 ^ 970

theorem middle_last :
    middle (count - 1) = limit := by
  have hQuanta :
      quantaOf (count - 1) + quantaOf (count - 1 + 1) =
        2 * (limit * quantaInOne) := by
    decide +kernel
  have hOne := cast_quantaInOne_pos
  rw [middle, valueOf, valueOf]
  generalize quantaInOne = one at hOne hQuanta ⊢
  generalize limit = bound at hQuanta ⊢
  rw [← add_div, ← Nat.cast_add, hQuanta]
  push_cast
  field_simp

/- What is less than a magnitude's quotient has a magnitude. -/
theorem exists_ofRatio?_of_le
    {num' den' : Nat}
    (hDen : 0 < den)
    (hDen' : 0 < den')
    (hValue : (num : ℚ) / den ≤ num' / den')
    (hRatio : ofRatio? num' den' = some m) :
    ∃ k, ofRatio? num den = some k ∧ k.value ≤ m.value := by
  have hRanks := roundedRank_mono hDen hDen' hValue
  rw [← rank_of_ofRatio? hRatio] at hRanks
  have hRank : roundedRank num den < count :=
    hRanks.trans_lt m.rank_lt
  refine ⟨⟨roundedRank num den, hRank⟩, dif_pos hRank, ?_⟩
  exact strictMono_valueOf.monotone hRanks

/-
  A quotient is too big from the middle above the last
  magnitude on, since the rank of this magnitude is odd.
-/
theorem ofRatio?_eq_none_iff
    (hDen : 0 < den) :
    ofRatio? num den = none ↔ (limit : ℚ) ≤ num / den := by
  have hRank :
      ofRatio? num den = none ↔
        count - 1 < roundedRank num den := by
    have hCount : 0 < count := by
      decide
    unfold ofRatio?
    split
    · simp only [reduceCtorEq, false_iff]
      omega
    · simp only [true_iff]
      omega
  have hOdd : (count - 1) % 2 = 1 := by
    decide
  rw [hRank, lt_roundedRank_iff num hDen, middle_last,
    le_iff_lt_or_eq, and_iff_left hOdd]

/- All numbers of up to 53 binary digits are magnitudes. -/
theorem exists_value_eq
    (hSmall : n < 2 ^ 53) :
    ∃ m : Magnitude, m.value = n := by
  rcases Nat.eq_zero_or_pos n with rfl | hPos
  · exact ⟨zero, value_zero.trans Nat.cast_zero.symm⟩
  · have hNonzero : n ≠ 0 := hPos.ne'
    have hLog : n.log2 < 53 := (Nat.log2_lt hNonzero).mpr hSmall
    have hLower := Nat.log2_self_le hNonzero
    have hUpper := Nat.lt_log2_self (n := n)
    -- as many steps as fill the digits up to 53
    have hWidth :
        2 ^ n.log2 * 2 ^ (52 - n.log2) = octave := by
      rw [← pow_add, Nat.add_sub_of_le (by omega)]
      rfl
    have hAbove : octave ≤ n * 2 ^ (52 - n.log2) := by
      rw [← hWidth]
      exact Nat.mul_le_mul_right _ hLower
    have hBelow : n * 2 ^ (52 - n.log2) < 2 * octave := by
      rw [← hWidth, ← mul_assoc, ← pow_succ']
      exact Nat.mul_lt_mul_of_pos_right hUpper
        (Nat.two_pow_pos _)
    have hQuanta :
        quantaOf
            (n * 2 ^ (52 - n.log2) + (n.log2 + 1022) * octave) =
          n * 2 ^ (52 - n.log2) * 2 ^ (n.log2 + 1022) :=
      quantaOf_steps (.inr hAbove) hBelow.le
    have hExponent :
        52 - n.log2 + (n.log2 + 1022) = 1074 := by
      omega
    have hExact :
        n * 2 ^ (52 - n.log2) * 2 ^ (n.log2 + 1022) =
          n * quantaInOne := by
      rw [mul_assoc, ← pow_add, hExponent, quantaInOne_eq]
    have hRank :
        n * 2 ^ (52 - n.log2) + (n.log2 + 1022) * octave <
          count := by
      have hCount : count = 2047 * octave := rfl
      have hOctaves :
          (n.log2 + 1022) * octave ≤ 1074 * octave :=
        Nat.mul_le_mul_right _ (by omega)
      omega
    refine ⟨⟨_, hRank⟩, ?_⟩
    have hOne := cast_quantaInOne_pos
    rw [value_eq, valueOf, hQuanta, hExact, Nat.cast_mul,
      mul_div_cancel_right₀ _ hOne.ne']

/- Small natural numbers are not rounded. -/
theorem ofRatio?_of_lt
    (hSmall : n < 2 ^ 53) :
    ∃ m, ofRatio? n 1 = some m ∧ m.value = n := by
  rcases exists_value_eq hSmall with ⟨m, hValue⟩
  refine ⟨m, ofRatio?_of_value Nat.one_pos ?_, hValue⟩
  rw [hValue, Nat.cast_one, div_one]

/- The steps of a magnitude, which tell it within its octave. -/
def significand
    (m : Magnitude) : Nat :=
  m.rank - m.shift * octave

/- Ranks and significands are even together. -/
theorem significand_mod_two
    (m : Magnitude) :
    m.significand % 2 = m.rank % 2 := by
  have hEven : octave = 2 * 0x8000000000000 := rfl
  have hSteps := m.steps_bounds.1
  rw [hEven] at hSteps
  rw [significand, hEven]
  omega

end Magnitude

end MathScan

------------------------------------------------------------
-- The Nearest Magnitude
------------------------------------------------------------

namespace MathScan

namespace Magnitude

variable {num den : Nat} {m : Magnitude}

theorem value_nonneg
    (m : Magnitude) :
    0 ≤ m.value :=
  div_nonneg (Nat.cast_nonneg _) (Nat.cast_nonneg _)

/-
  Every other magnitude is further away from a quotient than
  its own magnitude, or equally far from it and the latter has
  an even significand.
-/
theorem dist_lt_of_ofRatio?
    (hDen : 0 < den)
    (hRatio : ofRatio? num den = some m)
    {k : Magnitude}
    (hOther : k.value ≠ m.value) :
    |m.value - (num : ℚ) / den| < |k.value - (num : ℚ) / den| ∨
      |m.value - (num : ℚ) / den| =
          |k.value - (num : ℚ) / den| ∧
        Even m.significand := by
  have hRank := rank_of_ofRatio? hRatio
  have hRanks : k.rank ≠ roundedRank num den := by
    intro hSame
    apply hOther
    rw [value_eq, value_eq, hSame, hRank]
  have hDistance := dist_roundedRank_lt hDen hRanks
  rw [← hRank, ← significand_mod_two, ← Nat.even_iff]
    at hDistance
  exact hDistance

/- No magnitude is nearer to a quotient than its own. -/
theorem dist_le_of_ofRatio?
    (hDen : 0 < den)
    (hRatio : ofRatio? num den = some m)
    (k : Magnitude) :
    |m.value - (num : ℚ) / den| ≤ |k.value - (num : ℚ) / den| := by
  by_cases hSame : k.value = m.value
  · rw [hSame]
  · rcases dist_lt_of_ofRatio? hDen hRatio hSame with
      hLess | ⟨hEqual, _⟩
    · exact hLess.le
    · exact hEqual.le

end Magnitude

end MathScan

------------------------------------------------------------
-- The Nearest Double
------------------------------------------------------------

namespace MathScan

namespace Double

def value? : Double → Option ℚ
  | .finite negative m =>
    some (if negative then -m.value else m.value)
  | _ => none

/- Whether the significand of a finite double is even. -/
def HasEvenSignificand : Double → Prop
  | .finite _ m => Even m.significand
  | _ => False

/-
  Whether a double is nearest to a number: every finite double
  with another value is further away from it, or equally far
  and the significand of the double itself is even.
-/
def Nearest
    (x : Double)
    (q : ℚ) : Prop :=
  ∃ v, x.value? = some v ∧
    ∀ (y : Double) (w : ℚ), y.value? = some w → w ≠ v →
      |v - q| < |w - q| ∨
        |v - q| = |w - q| ∧ x.HasEvenSignificand

/-
  Whether a double is less than or equal to another one. NaN
  is not compared.
-/
def AtMost
    (x y : Double) : Prop :=
  x ≠ .nan ∧ y ≠ .nan ∧
    (x = .infinite true ∨ y = .infinite false ∨
      ∃ v w : ℚ, x.value? = some v ∧ y.value? = some w ∧ v ≤ w)

/-
  What a natural number is rounded to: the nearest double, or
  infinity from the limit on. Up to 53 binary digits it is not
  rounded at all.
-/
structure RoundedFrom
    (n : Nat)
    (x : Double) : Prop where
  nearest : n < Magnitude.limit → x.Nearest n
  finite : n < Magnitude.limit → ∃ m, x = .finite false m
  infinite : Magnitude.limit ≤ n → x = .infinite false
  value_eq : n < 2 ^ 53 → x.value? = some (n : ℚ)

variable {num den : Nat} {m : Magnitude}

/- The magnitude of a quotient is the nearest double to it. -/
theorem nearest_of_ofRatio?
    (hDen : 0 < den)
    (hRatio : Magnitude.ofRatio? num den = some m) :
    Nearest (.finite false m) ((num : ℚ) / den) := by
  refine ⟨m.value, rfl, ?_⟩
  intro y w hValue hOther
  cases y with
  | nan => cases hValue
  | infinite negative => cases hValue
  | finite negative k =>
      cases negative with
      | false =>
          cases hValue
          exact Magnitude.dist_lt_of_ofRatio? hDen hRatio hOther
      | true =>
          -- zero is nearer than a negative double
          cases hValue
          have hQuotient : (0 : ℚ) ≤ num / den := by
            positivity
          have hNegative :
              |-k.value - (num : ℚ) / den| =
                k.value + num / den := by
            rw [← neg_add', abs_neg,
              abs_of_nonneg (add_nonneg k.value_nonneg hQuotient)]
          have hZero :
              |Magnitude.zero.value - (num : ℚ) / den| =
                num / den := by
            rw [Magnitude.value_zero, zero_sub, abs_neg,
              abs_of_nonneg hQuotient]
          rw [if_pos rfl] at hOther ⊢
          rcases k.value_nonneg.lt_or_eq with hPos | hNone
          · left
            have hNearer :=
              Magnitude.dist_le_of_ofRatio? hDen hRatio .zero
            linarith
          · have hSame : Magnitude.zero.value ≠ m.value := by
              rw [Magnitude.value_zero]
              rwa [← hNone, neg_zero] at hOther
            have hNearer :=
              Magnitude.dist_lt_of_ofRatio? hDen hRatio hSame
            rw [hZero] at hNearer
            rw [hNegative, ← hNone, zero_add]
            exact hNearer

/- A natural number is rounded to the nearest double. -/
theorem roundedFrom_ofNat
    (n : Nat) :
    (ofNat n).RoundedFrom n := by
  have hOne : (n : ℚ) / (1 : Nat) = n := by
    rw [Nat.cast_one, div_one]
  have hTooBig :
      Magnitude.ofRatio? n 1 = none ↔
        (Magnitude.limit : ℚ) ≤ n / (1 : Nat) :=
    Magnitude.ofRatio?_eq_none_iff Nat.one_pos
  rw [hOne, Nat.cast_le] at hTooBig
  have hMagnitude (hFits : n < Magnitude.limit) :
      ∃ m, Magnitude.ofRatio? n 1 = some m := by
    apply Option.ne_none_iff_exists'.mp
    intro hNone
    exact Nat.not_le_of_lt hFits (hTooBig.mp hNone)
  refine
    { nearest := ?_
      finite := ?_
      infinite := ?_
      value_eq := ?_ }
  · intro hFits
    rcases hMagnitude hFits with ⟨m, hRatio⟩
    have hNearest := nearest_of_ofRatio? Nat.one_pos hRatio
    rw [hOne] at hNearest
    rw [ofNat, hRatio]
    exact hNearest
  · intro hFits
    rcases hMagnitude hFits with ⟨m, hRatio⟩
    rw [ofNat, hRatio]
    exact ⟨m, rfl⟩
  · intro hBig
    rw [ofNat, hTooBig.mpr hBig]
    rfl
  · intro hSmall
    rcases Magnitude.ofRatio?_of_lt hSmall with
      ⟨m, hRatio, hValue⟩
    rw [ofNat, hRatio, ← hValue]
    rfl

/- The middle above 2 ^ 53, with an even neighbour below. -/
example :
    ofNat 9007199254740993 = ofNat 9007199254740992 := by
  decide +kernel

/- Larger numbers are not rounded to lesser doubles. -/
theorem atMost_ofNat
    {n k : Nat}
    (hNumbers : n ≤ k) :
    (ofNat n).AtMost (ofNat k) := by
  have hQuotients :
      (n : ℚ) / (1 : Nat) ≤ (k : ℚ) / (1 : Nat) := by
    rw [Nat.cast_one, div_one, div_one]
    exact_mod_cast hNumbers
  rw [ofNat, ofNat]
  cases hUpper : Magnitude.ofRatio? k 1 with
  | none =>
      refine ⟨?_, nofun, .inr (.inl rfl)⟩
      cases Magnitude.ofRatio? n 1 with
      | none => exact nofun
      | some m => exact nofun
  | some m =>
      rcases Magnitude.exists_ofRatio?_of_le Nat.one_pos
          Nat.one_pos hQuotients hUpper with
        ⟨l, hLower, hValues⟩
      rw [hLower]
      exact ⟨nofun, nofun,
        .inr (.inr ⟨l.value, m.value, rfl, rfl, hValues⟩)⟩

end Double

end MathScan
