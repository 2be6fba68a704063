import MathScan.Proofs.Numeral
import MathScan.Proofs.Rounding

/-
  The text of a double reads back. The shortest decimal number
  of a magnitude is rounded to the magnitude, the text of a
  decimal number is read as an equal one, and so a double is
  read from its own text. So two doubles with the same text
  are the same double.

  Key definitions include:
    * `numberChars`

  The key statements are:
    * `Magnitude.ofDecimal?_shortest`
    * `Decimal.readUnsigned?_text`
    * `Double.read?_chars`
    * `Double.chars_injective`
-/

------------------------------------------------------------
-- The Shortest Decimal Number
------------------------------------------------------------

namespace MathScan

namespace Magnitude

/-
  The exact expansion of a magnitude has its value: a power of
  two below is one of ten with as many fives above.
-/
theorem value_exactDecimal
    (m : Magnitude) :
    m.exactDecimal.value = m.value := by
  generalize hCommon : m.quanta.gcd quantaInOne = common
  have hPos : 0 < common := by
    rw [← hCommon]
    exact Nat.gcd_pos_of_pos_right _ quantaInOne_pos
  have hBelow : common ∣ quantaInOne := by
    rw [← hCommon]
    exact Nat.gcd_dvd_right _ _
  have hPower : quantaInOne / common ∣ 2 ^ 1074 := by
    rw [← quantaInOne_eq]
    exact Nat.div_dvd_of_dvd hBelow
  rcases (Nat.dvd_prime_pow Nat.prime_two).mp hPower with
    ⟨places, _, hPlaces⟩
  have hExact :
      m.exactDecimal =
        ⟨m.quanta / common * 5 ^ places, -(places : Int)⟩ := by
    simp only [exactDecimal, hCommon, hPlaces, Nat.log2_two_pow]
    rfl
  have hOne : quantaInOne = 2 ^ places * common := by
    rw [← hPlaces]
    exact (Nat.div_mul_cancel hBelow).symm
  have hAbove : common ∣ m.quanta := by
    rw [← hCommon]
    exact Nat.gcd_dvd_left _ _
  rcases hAbove with ⟨steps, hSteps⟩
  have hNonzero : (common : ℚ) ≠ 0 := by
    positivity
  rw [hExact, Decimal.value, value, hOne, hSteps,
    Nat.mul_div_cancel_left _ hPos]
  push_cast
  rw [zpow_neg, zpow_natCast, show (10 : ℚ) = 2 * 5 by norm_num,
    mul_pow]
  field_simp

/- A neighbour is only taken if it reads back. -/
theorem ofDecimal?_of_shortened?
    {m : Magnitude}
    {x short : Decimal}
    {dropped : Nat}
    (hShort : m.shortened? x dropped = some short) :
    ofDecimal? short = some m := by
  have hBack
      {y : Decimal}
      (hReads : m.readsBack y = true) :
      ofDecimal? y = some m := by
    simpa [readsBack] using hReads
  simp only [shortened?] at hShort
  split at hShort
  · rename_i hLower hUpper
    cases hShort
    split
    · exact hBack hLower
    · exact hBack hUpper
  · rename_i hLower _
    cases hShort
    exact hBack hLower
  · rename_i _ hUpper
    cases hShort
    exact hBack hUpper
  · cases hShort

/-
  Dropping digits of a decimal number that reads back gives
  another one that does.
-/
theorem ofDecimal?_shortestFrom
    {m : Magnitude}
    {x : Decimal}
    (hExact : ofDecimal? x = some m)
    (dropped : Nat) :
    ofDecimal? (shortestFrom m x dropped) = some m := by
  induction dropped with
  | zero => exact hExact
  | succ dropped ih =>
      unfold shortestFrom
      split
      · rename_i short hShort
        exact ofDecimal?_of_shortened? hShort
      · exact ih

/- The shortest decimal number of a magnitude reads back. -/
theorem ofDecimal?_shortest
    (m : Magnitude) :
    ofDecimal? m.shortest = some m :=
  ofDecimal?_shortestFrom
    (ofDecimal?_of_value m.value_exactDecimal) _

/- Only the shortest decimal number of zero has no digits. -/
theorem digits_shortest_ne_zero
    {m : Magnitude}
    (hRank : m.rank ≠ 0) :
    m.shortest.digits ≠ 0 := by
  intro hDigits
  have hZero : some zero = some m := by
    rw [← ofDecimal?_shortest m, ofDecimal?, if_pos hDigits]
  rw [← Option.some.inj hZero] at hRank
  exact hRank rfl

end Magnitude

end MathScan

------------------------------------------------------------
-- The Text of a Decimal Number
------------------------------------------------------------

namespace MathScan

/- An integer is what its sign and its amount make. -/
theorem Double.signed_natAbs
    (k : Int) :
    signed (k < 0) k.natAbs = k := by
  unfold signed
  split
  · rename_i hNegative
    have hBelow := of_decide_eq_true hNegative
    omega
  · rename_i hNegative
    have hAbove : ¬ k < 0 := by
      simpa using hNegative
    omega

namespace Decimal

/- Zeros at the end of the digits only move the exponent. -/
theorem value_mul_ten_pow
    (n k : Nat)
    (e : Int) :
    (⟨n * 10 ^ k, e⟩ : Decimal).value =
      (⟨n, k + e⟩ : Decimal).value := by
  have hTen : (10 : ℚ) ≠ 0 := by
    norm_num
  simp only [value]
  push_cast
  rw [zpow_add₀ hTen, zpow_natCast, mul_assoc]

/- What is trimmed off the end of the digits are zeros. -/
theorem exists_zeros
    (ds : List Char) :
    ∃ k, ds = trimZeros ds ++ List.replicate k '0' := by
  have hZeros :
      ∀ c ∈ ds.reverse.takeWhile (· == '0'), c = '0' := by
    intro c hMem
    simpa using List.mem_takeWhile_imp hMem
  have hSplit :=
    congrArg List.reverse
      (List.takeWhile_append_dropWhile
        (p := (· == '0')) (l := ds.reverse))
  rw [List.eq_replicate_of_mem hZeros, List.reverse_append,
    List.reverse_replicate, List.reverse_reverse] at hSplit
  exact ⟨_, hSplit.symm⟩

/- The digits of an exponent, of which there are at least two. -/
def exponentDigits
    (n : Nat) : List Char :=
  let ds := Nat.toDigits 10 n
  if ds.length < 2 then '0' :: ds else ds

theorem exponentDigits_ne_nil
    (n : Nat) :
    exponentDigits n ≠ [] := by
  simp only [exponentDigits]
  split
  · exact List.cons_ne_nil _ _
  · exact Nat.toDigits_ne_nil

theorem isDigit_of_mem_toDigits
    {n : Nat}
    {d : Char}
    (hMem : d ∈ Nat.toDigits 10 n) :
    d.isDigit = true :=
  Nat.isDigit_of_mem_toDigits (by decide) (by decide) hMem

theorem isDigit_of_mem_exponentDigits
    {n : Nat}
    {d : Char}
    (hMem : d ∈ exponentDigits n) :
    d.isDigit = true := by
  simp only [exponentDigits] at hMem
  split at hMem
  · rcases List.mem_cons.mp hMem with rfl | hDigits
    · rfl
    · exact isDigit_of_mem_toDigits hDigits
  · exact isDigit_of_mem_toDigits hMem

theorem ofDigitChars_exponentDigits
    (n : Nat) :
    Nat.ofDigitChars 10 (exponentDigits n) 0 = n := by
  simp only [exponentDigits]
  split
  · rw [Nat.ofDigitChars_cons]
    exact Nat.ofDigitChars_ten_toDigits
  · exact Nat.ofDigitChars_ten_toDigits

/- An exponent is its mark, its sign and its digits. -/
theorem exponentText_eq
    (e : Int) :
    exponentText e =
      'e' :: (if e < 0 then '-' else '+') ::
        exponentDigits e.natAbs :=
  rfl

/- An exponent is read as it is written. -/
theorem readExponent?_exponentText
    (e : Int) :
    Double.readExponent? (exponentText e) = some e := by
  have hDigits :
      (exponentDigits e.natAbs).all Char.isDigit = true :=
    List.all_eq_true.mpr fun d hMem =>
      isDigit_of_mem_exponentDigits hMem
  have hSign :
      Double.readSign
          ((if e < 0 then '-' else '+') ::
            exponentDigits e.natAbs) =
        (decide (e < 0), exponentDigits e.natAbs) := by
    split
    · rename_i hNegative
      simp [Double.readSign, hNegative]
    · rename_i hNegative
      simp [Double.readSign, hNegative]
  simp only [exponentText_eq, Double.readExponent?, hSign,
    hDigits, ofDigitChars_exponentDigits, Double.signed_natAbs]
  simp [exponentDigits_ne_nil]

variable {whole fraction ts : List Char}

theorem isDigit_of_mem_zeros
    (k : Nat) :
    ∀ d ∈ List.replicate k '0', d.isDigit = true := by
  intro d hMem
  rw [List.eq_of_mem_replicate hMem]
  rfl

/- Digits with a point among them and no exponent. -/
theorem readUnsigned?_pointed
    (hNonempty : whole ≠ [])
    (hWhole : ∀ d ∈ whole, d.isDigit = true)
    (hFraction : ∀ d ∈ fraction, d.isDigit = true) :
    Double.readUnsigned? (whole ++ '.' :: fraction) =
      some
        ⟨Nat.ofDigitChars 10 (whole ++ fraction) 0,
          -fraction.length⟩ := by
  have hRead :
      Double.readUnsigned? (whole ++ '.' :: (fraction ++ [])) =
        some
          ⟨Nat.ofDigitChars 10 (whole ++ fraction) 0,
            0 - fraction.length⟩ :=
    Double.readUnsigned?_point hNonempty hWhole hFraction
      (by simp) rfl
  rw [List.append_nil, Int.zero_sub] at hRead
  exact hRead

/- Zeros in front of the digits, with the point before them. -/
theorem readUnsigned?_zerosBefore
    (hDigits : ∀ d ∈ ts, d.isDigit = true)
    (k : Nat) :
    Double.readUnsigned?
        ('0' :: '.' :: (List.replicate k '0' ++ ts)) =
      some ⟨Nat.ofDigitChars 10 ts 0, -(k + ts.length)⟩ := by
  have hFraction :
      ∀ d ∈ List.replicate k '0' ++ ts, d.isDigit = true :=
    List.forall_mem_append.mpr ⟨isDigit_of_mem_zeros k, hDigits⟩
  have hRead :=
    readUnsigned?_pointed (List.cons_ne_nil '0' [])
      (isDigit_of_mem_zeros 1) hFraction
  simpa [Nat.ofDigitChars_append, Nat.ofDigitChars_cons]
    using hRead

/- Zeros behind the digits, with the point before one more. -/
theorem readUnsigned?_zerosBehind
    (hNonempty : ts ≠ [])
    (hDigits : ∀ d ∈ ts, d.isDigit = true)
    (k : Nat) :
    Double.readUnsigned?
        (ts ++ List.replicate k '0' ++ ['.', '0']) =
      some
        ⟨Nat.ofDigitChars 10 ts 0 * 10 ^ (k + 1), -1⟩ := by
  have hWhole :
      ∀ d ∈ ts ++ List.replicate k '0', d.isDigit = true :=
    List.forall_mem_append.mpr ⟨hDigits, isDigit_of_mem_zeros k⟩
  have hSpelled :
      Nat.ofDigitChars 10
          (ts ++ List.replicate k '0' ++ List.replicate 1 '0')
          0 =
        Nat.ofDigitChars 10 ts 0 * 10 ^ (k + 1) := by
    rw [List.append_assoc, List.replicate_append_replicate,
      Nat.ofDigitChars_append, Nat.ofDigitChars_replicate_zero,
      Nat.mul_comm]
  have hRead :=
    readUnsigned?_pointed
      (List.append_ne_nil_of_left_ne_nil hNonempty _) hWhole
      (isDigit_of_mem_zeros 1)
  rw [hSpelled] at hRead
  exact hRead

/-
  Digits with a point after so many of them have the value
  that they have there, wherever the point had to be put.
-/
theorem readUnsigned?_positional
    (hNonempty : ts ≠ [])
    (hDigits : ∀ d ∈ ts, d.isDigit = true)
    (point : Int) :
    ∃ y, Double.readUnsigned? (positional ts point) = some y ∧
      y.value =
        (⟨Nat.ofDigitChars 10 ts 0, point - ts.length⟩ :
          Decimal).value := by
  unfold positional
  split
  · rename_i hFront
    have hPlaces :
        -(((-point).toNat : Int) + ts.length) =
          point - ts.length := by
      omega
    refine ⟨_, readUnsigned?_zerosBefore hDigits _, ?_⟩
    rw [hPlaces]
  split
  · rename_i hFront hBehind
    have hZeros :
        (((point - ts.length).toNat + 1 : Nat) : Int) + -1 =
          point - ts.length := by
      omega
    refine ⟨_, readUnsigned?_zerosBehind hNonempty hDigits _, ?_⟩
    rw [value_mul_ten_pow, hZeros]
  · rename_i hFront hBehind
    have hWhole : ts.take point.toNat ≠ [] := by
      rw [Ne, List.take_eq_nil_iff, not_or]
      exact ⟨by omega, hNonempty⟩
    have hPlaces :
        -((ts.drop point.toNat).length : Int) =
          point - ts.length := by
      rw [List.length_drop]
      omega
    refine
      ⟨_, readUnsigned?_pointed hWhole
        (fun d hMem => hDigits d (List.mem_of_mem_take hMem))
        (fun d hMem => hDigits d (List.mem_of_mem_drop hMem)),
        ?_⟩
    rw [List.take_append_drop, hPlaces]

/- The same for digits with an exponent. -/
theorem readUnsigned?_scientific
    (hNonempty : ts ≠ [])
    (hDigits : ∀ d ∈ ts, d.isDigit = true)
    (point : Int) :
    ∃ y,
      Double.readUnsigned? (scientific ts (point - 1)) = some y ∧
        y.value =
          (⟨Nat.ofDigitChars 10 ts 0, point - ts.length⟩ :
            Decimal).value := by
  have hRest :
      ∀ c ∈ (exponentText (point - 1)).head?,
        c.isDigit = false ∧ c ≠ '.' := by
    rw [exponentText_eq]
    simp
  have hExponent := readExponent?_exponentText (point - 1)
  cases ts with
  | nil => exact absurd rfl hNonempty
  | cons d more =>
      have hFirst : ∀ c ∈ [d], c.isDigit = true := by
        simpa using hDigits d (by simp)
      cases more with
      | nil =>
          have hRead :=
            Double.readUnsigned?_whole hNonempty hFirst hRest
              hExponent
          exact ⟨_, hRead, rfl⟩
      | cons next more =>
          have hMore : ∀ c ∈ next :: more, c.isDigit = true :=
            fun c hMem => hDigits c (List.mem_cons_of_mem d hMem)
          have hRead :=
            Double.readUnsigned?_point (List.cons_ne_nil d [])
              hFirst hMore (fun c hMem => (hRest c hMem).1)
              hExponent
          have hPlaces :
              point - 1 - ((next :: more).length : Int) =
                point - (d :: next :: more).length := by
            simp only [List.length_cons]
            omega
          refine ⟨_, hRead, ?_⟩
          rw [hPlaces]
          rfl

/-
  The digits of a number are those of its trimmed digits, and
  only zero has none of these.
-/
theorem exists_trimZeros
    (n : Nat) :
    ∃ k,
      (Nat.toDigits 10 n).length =
          (trimZeros (Nat.toDigits 10 n)).length + k ∧
        n =
          Nat.ofDigitChars 10 (trimZeros (Nat.toDigits 10 n)) 0 *
            10 ^ k := by
  rcases exists_zeros (Nat.toDigits 10 n) with ⟨k, hSplit⟩
  refine ⟨k, ?_, ?_⟩
  · conv_lhs =>
      rw [hSplit, List.length_append, List.length_replicate]
  · conv_lhs =>
      rw [← Nat.ofDigitChars_ten_toDigits (n := n), hSplit,
        Nat.ofDigitChars_append,
        Nat.ofDigitChars_replicate_zero, Nat.mul_comm]

theorem isDigit_of_mem_trimZeros
    {n : Nat}
    {d : Char}
    (hMem : d ∈ trimZeros (Nat.toDigits 10 n)) :
    d.isDigit = true := by
  rcases exists_zeros (Nat.toDigits 10 n) with ⟨k, hSplit⟩
  apply isDigit_of_mem_toDigits
  rw [hSplit]
  exact List.mem_append_left _ hMem

theorem trimZeros_ne_nil
    {n : Nat}
    (hNonzero : n ≠ 0) :
    trimZeros (Nat.toDigits 10 n) ≠ [] := by
  intro hNil
  rcases exists_trimZeros n with ⟨k, _, hSpelled⟩
  rw [hNil] at hSpelled
  simp [hNonzero] at hSpelled

/- A decimal number is read from its text as an equal one. -/
theorem readUnsigned?_text
    {x : Decimal}
    (hNonzero : x.digits ≠ 0) :
    ∃ y, Double.readUnsigned? x.text = some y ∧
      y.value = x.value := by
  have hNonempty := trimZeros_ne_nil hNonzero
  have hDigits :
      ∀ d ∈ trimZeros (Nat.toDigits 10 x.digits),
        d.isDigit = true :=
    fun d hMem => isDigit_of_mem_trimZeros hMem
  rcases exists_trimZeros x.digits with ⟨k, hLength, hSpelled⟩
  simp only [text]
  generalize trimZeros (Nat.toDigits 10 x.digits) = ts
    at hNonempty hDigits hLength hSpelled ⊢
  have hValue :
      x.value =
        (⟨Nat.ofDigitChars 10 ts 0,
            (Nat.toDigits 10 x.digits).length + x.exponent -
              ts.length⟩ :
          Decimal).value := by
    have hPoint :
        ((Nat.toDigits 10 x.digits).length : Int) + x.exponent -
            ts.length =
          k + x.exponent := by
      omega
    rw [hPoint, ← value_mul_ten_pow, ← hSpelled]
  rw [hValue]
  split
  · exact readUnsigned?_positional hNonempty hDigits _
  · exact readUnsigned?_scientific hNonempty hDigits _

end Decimal

end MathScan

------------------------------------------------------------
-- The Characters of a Number
------------------------------------------------------------

namespace MathScan

/- The characters that numbers are written with. -/
def numberChars : List Char :=
  digits ++ ['.', 'e', '+', '-', 'n', 'a', 'i', 'f']

theorem mem_numberChars_of_isDigit
    {d : Char}
    (hDigit : d.isDigit = true) :
    d ∈ numberChars :=
  List.mem_append_left _ ((mem_digits_iff d).mpr hDigit)

namespace Decimal

theorem exponentText_subset
    (e : Int) :
    exponentText e ⊆ numberChars := by
  have hDigits : exponentDigits e.natAbs ⊆ numberChars :=
    fun d hMem =>
      mem_numberChars_of_isDigit
        (isDigit_of_mem_exponentDigits hMem)
  have hMark : 'e' ∈ numberChars := by
    decide
  have hSign : (if e < 0 then '-' else '+') ∈ numberChars := by
    split
    · decide
    · decide
  rw [exponentText_eq]
  exact List.cons_subset.mpr
    ⟨hMark, List.cons_subset.mpr ⟨hSign, hDigits⟩⟩

/- A point and zeros are such characters. -/
theorem positional_subset
    {ts : List Char}
    (hDigits : ts ⊆ numberChars)
    (point : Int) :
    positional ts point ⊆ numberChars := by
  have hZero : '0' ∈ numberChars := by
    decide
  have hPoint : '.' ∈ numberChars := by
    decide
  have hZeros (k : Nat) : List.replicate k '0' ⊆ numberChars :=
    List.replicate_subset.mpr (.inr hZero)
  unfold positional
  split
  · have hFraction :=
      List.append_subset.mpr ⟨hZeros (-point).toNat, hDigits⟩
    exact List.cons_subset.mpr
      ⟨hZero, List.cons_subset.mpr ⟨hPoint, hFraction⟩⟩
  split
  · have hWhole :=
      List.append_subset.mpr
        ⟨hDigits, hZeros (point - ts.length).toNat⟩
    exact List.append_subset.mpr
      ⟨hWhole, List.cons_subset.mpr ⟨hPoint, hZeros 1⟩⟩
  · have hWhole :=
      List.Subset.trans (List.take_subset point.toNat ts) hDigits
    have hFraction :=
      List.Subset.trans (List.drop_subset point.toNat ts) hDigits
    exact List.append_subset.mpr
      ⟨hWhole, List.cons_subset.mpr ⟨hPoint, hFraction⟩⟩

theorem scientific_subset
    {ts : List Char}
    (hDigits : ts ⊆ numberChars)
    (e : Int) :
    scientific ts e ⊆ numberChars := by
  have hPoint : '.' ∈ numberChars := by
    decide
  have hFirst :=
    List.Subset.trans (List.take_subset 1 ts) hDigits
  have hMore :
      (if ts.length ≤ 1 then [] else '.' :: ts.drop 1) ⊆
        numberChars := by
    split
    · exact List.nil_subset _
    · exact List.cons_subset.mpr
        ⟨hPoint,
          List.Subset.trans (List.drop_subset 1 ts) hDigits⟩
  exact List.append_subset.mpr
    ⟨List.append_subset.mpr ⟨hFirst, hMore⟩,
      exponentText_subset e⟩

theorem text_subset
    (x : Decimal) :
    x.text ⊆ numberChars := by
  have hDigits :
      trimZeros (Nat.toDigits 10 x.digits) ⊆ numberChars :=
    fun _ hMem =>
      mem_numberChars_of_isDigit (isDigit_of_mem_trimZeros hMem)
  simp only [text]
  split
  · exact positional_subset hDigits _
  · exact scientific_subset hDigits _

/- A number begins with a digit, which may be an added zero. -/
theorem exists_digit_text
    {x : Decimal}
    (hNonzero : x.digits ≠ 0) :
    ∃ d rest, x.text = d :: rest ∧ d.isDigit = true := by
  have hDigits :
      ∀ d ∈ trimZeros (Nat.toDigits 10 x.digits),
        d.isDigit = true :=
    fun d hMem => isDigit_of_mem_trimZeros hMem
  rcases List.exists_cons_of_ne_nil (trimZeros_ne_nil hNonzero)
    with ⟨d, more, hTrimmed⟩
  rw [hTrimmed] at hDigits
  have hDigit := hDigits d (by simp)
  simp only [text, hTrimmed]
  generalize
    ((Nat.toDigits 10 x.digits).length : Int) + x.exponent =
      point
  split
  · unfold positional
    split
    · exact ⟨'0', _, rfl, rfl⟩
    split
    · exact ⟨d, _, rfl, hDigit⟩
    · rename_i hFront _
      rcases Nat.exists_eq_succ_of_ne_zero
          (by omega : point.toNat ≠ 0) with
        ⟨k, hTake⟩
      rw [hTake]
      exact ⟨d, _, rfl, hDigit⟩
  · exact ⟨d, _, rfl, hDigit⟩

end Decimal

namespace Double

theorem withSign_subset
    {cs : List Char}
    (hChars : cs ⊆ numberChars)
    (negative : Bool) :
    withSign negative cs ⊆ numberChars := by
  have hMinus : '-' ∈ numberChars := by
    decide
  unfold withSign
  split
  · exact List.cons_subset.mpr ⟨hMinus, hChars⟩
  · exact hChars

theorem chars_subset
    (x : Double) :
    x.chars ⊆ numberChars := by
  cases x with
  | nan =>
      change ['n', 'a', 'n'] ⊆ numberChars
      decide
  | infinite negative =>
      exact withSign_subset (by decide) negative
  | finite negative m =>
      apply withSign_subset
      unfold Magnitude.text
      split
      · decide
      · exact Decimal.text_subset _

/- The characters of numbers are read as they stand. -/
theorem read?_of_subset
    {cs : List Char}
    (hChars : cs ⊆ numberChars) :
    read? cs = readPlain? cs :=
  read?_of_bare fun _ hMem =>
    of_mem_of_all (by decide) (hChars hMem)

theorem readPlain?_text
    (negative : Bool)
    (m : Magnitude) :
    readPlain? (withSign negative m.text) =
      some (.finite negative m) := by
  unfold Magnitude.text
  split
  · rename_i hRank
    have hZero : m = .zero := by
      rcases m with ⟨rank, hBelow⟩
      cases hRank
      rfl
    rw [hZero]
    cases negative with
    | true => decide
    | false => decide
  · rename_i hRank
    have hDigits := Magnitude.digits_shortest_ne_zero hRank
    rcases Decimal.exists_digit_text hDigits with
      ⟨d, rest, hText, hDigit⟩
    rcases Decimal.readUnsigned?_text hDigits with
      ⟨y, hRead, hValue⟩
    rw [hText] at hRead
    rw [hText, readPlain?_withSign negative hDigit, hRead,
      Option.map_some, ofDecimal,
      Magnitude.ofDecimal?_congr hValue,
      Magnitude.ofDecimal?_shortest]
    rfl

/- A double is read from its own text. -/
theorem read?_chars
    (x : Double) :
    read? x.chars = some x := by
  rw [read?_of_subset x.chars_subset]
  cases x with
  | nan => decide
  | infinite negative =>
      cases negative with
      | true => decide
      | false => decide
  | finite negative m => exact readPlain?_text negative m

theorem chars_injective :
    Function.Injective chars := by
  intro x y hChars
  have hRead := read?_chars x
  rw [hChars, read?_chars y] at hRead
  exact (Option.some.inj hRead).symm

end Double

end MathScan
