import MathScan.Double.Reader
import MathScan.Double.Shortest
import MathScan.Token.Kind
import Mathlib.Data.List.TakeDrop
import Mathlib.Data.List.TakeWhile

/-
  Reading a double from plain text. From digits, with or
  without a point and an exponent, nothing is trimmed off or
  taken out, and digits alone are read as the double nearest
  to the whole number that they spell.

  Key definitions include:
    * `Double.Bare`

  The key statements are:
    * `Double.read?_of_bare`
    * `Double.readUnsigned?_point`
    * `Double.readUnsigned?_whole`
    * `Double.read?_withSign_digits`
    * `Double.read?_digits`
-/

------------------------------------------------------------
-- Properties of All Members
------------------------------------------------------------

namespace MathScan

variable {P : Char → Prop} [DecidablePred P] {c : Char}

/- A member has every property that is checked for them all. -/
theorem of_mem_of_all
    {cs : List Char}
    (hAll : (cs.all fun d => P d) = true)
    (hMem : c ∈ cs) :
    P c :=
  of_decide_eq_true (List.all_eq_true.mp hAll c hMem)

/- A digit has every property that the ten digits have. -/
theorem of_isDigit
    (hAll : (digits.all fun d => P d) = true)
    (hDigit : c.isDigit = true) :
    P c :=
  of_mem_of_all hAll ((mem_digits_iff c).mpr hDigit)

end MathScan

------------------------------------------------------------
-- Whole Decimal Numbers
------------------------------------------------------------

namespace MathScan

namespace Magnitude

theorem ofRatio?_zero :
    ofRatio? 0 1 = some zero := by
  decide +kernel

/-
  A decimal number without a fraction is rounded like the
  whole number that it is.
-/
theorem ofDecimal?_natural
    (n : Nat) :
    ofDecimal? ⟨n, 0⟩ = ofRatio? n 1 := by
  have hNotLarge : ¬ (400 < (0 : Int)) := by
    decide
  have hNotSmall :
      ¬ ((0 : Int) < -(401 + n.log2)) := by
    omega
  by_cases hZero : n = 0
  · subst hZero
    simp [ofDecimal?, ofRatio?_zero]
  · have hRatio :
        (⟨n, 0⟩ : Decimal).ratio = (n, 1) := by
      change (n * Nat.pow 10 0, 1) = (n, 1)
      simp
    simp only [ofDecimal?, hZero, hNotLarge, hNotSmall,
      if_false, hRatio]

end Magnitude

end MathScan

------------------------------------------------------------
-- Bare Characters
------------------------------------------------------------

namespace MathScan

namespace Double

/- A character that is read as it stands. -/
structure Bare
    (c : Char) : Prop where
  ascii : c.toNat < 128
  not_space : isPlainSpace c = false
  ne_underscore : c ≠ '_'

instance
    (c : Char) :
    Decidable (Bare c) :=
  decidable_of_iff
    (c.toNat < 128 ∧ isPlainSpace c = false ∧ c ≠ '_')
    ⟨fun ⟨hAscii, hSpace, hNe⟩ => ⟨hAscii, hSpace, hNe⟩,
      fun ⟨hAscii, hSpace, hNe⟩ => ⟨hAscii, hSpace, hNe⟩⟩

theorem bare_of_isDigit
    {c : Char}
    (hDigit : c.isDigit = true) :
    Bare c :=
  of_isDigit (by decide) hDigit

/- Bare characters are plain characters already. -/
theorem plainDigits_of_bare
    {cs : List Char}
    (hBare : ∀ c ∈ cs, Bare c) :
    plainDigits cs = cs := by
  have hPlain :
      cs.all (fun c => c.toNat < 128) = true := by
    apply List.all_eq_true.mpr
    intro c hMem
    exact decide_eq_true (hBare c hMem).ascii
  simp only [plainDigits, hPlain, if_true]

theorem trimSpaces_of_bare
    {cs : List Char}
    (hBare : ∀ c ∈ cs, Bare c) :
    trimSpaces cs = cs := by
  have hNoSpace :
      ∀ {ds : List Char},
        (∀ c ∈ ds, Bare c) →
          ds.dropWhile isPlainSpace = ds := by
    intro ds hDs
    cases ds with
    | nil => rfl
    | cons c rest =>
        have hHead := (hDs c (by simp)).not_space
        rw [List.dropWhile_cons_of_neg (by simp [hHead])]
  have hReverse : ∀ c ∈ cs.reverse, Bare c := by
    simpa using hBare
  rw [trimSpaces, hNoSpace hBare, hNoSpace hReverse,
    List.reverse_reverse]

theorem joinDigits_of_bare
    {cs : List Char}
    (hBare : ∀ c ∈ cs, Bare c)
    (afterDigit : Bool) :
    joinDigits afterDigit cs = some cs := by
  induction cs generalizing afterDigit with
  | nil => rfl
  | cons c rest ih =>
      have hHead := (hBare c (by simp)).ne_underscore
      have hRest :
          joinDigits c.isDigit rest = some rest :=
        ih (fun d hMem => hBare d (by simp [hMem])) c.isDigit
      rw [joinDigits]
      · rw [hRest]
        rfl
      · intro h
        exact absurd h hHead
      · intro d more h
        exact absurd h hHead

/- Bare characters are read as they stand. -/
theorem read?_of_bare
    {cs : List Char}
    (hBare : ∀ c ∈ cs, Bare c) :
    read? cs = readPlain? cs := by
  rw [read?, plainDigits_of_bare hBare,
    trimSpaces_of_bare hBare, joinDigits_of_bare hBare,
    Option.bind_some]

end Double

end MathScan

------------------------------------------------------------
-- The Grammar
------------------------------------------------------------

namespace MathScan

namespace Double

variable {whole fraction rest : List Char} {e : Int}

/- Digits are taken off up to the next other character. -/
theorem span_digits
    {ds : List Char}
    (hDigits : ∀ d ∈ ds, d.isDigit = true)
    (hRest : ∀ c ∈ rest.head?, c.isDigit = false) :
    (ds ++ rest).span Char.isDigit = (ds, rest) := by
  have hStop :
      rest.takeWhile Char.isDigit = [] ∧
        rest.dropWhile Char.isDigit = rest := by
    cases rest with
    | nil => exact ⟨rfl, rfl⟩
    | cons c more =>
        have hHead : c.isDigit = false := hRest c rfl
        simp [hHead]
  rw [List.span_eq_takeWhile_dropWhile,
    List.takeWhile_append_of_pos hDigits,
    List.dropWhile_append_of_pos hDigits, hStop.1, hStop.2,
    List.append_nil]

/- Digits with a point, and what follows as an exponent. -/
theorem readUnsigned?_point
    (hNonempty : whole ≠ [])
    (hWhole : ∀ d ∈ whole, d.isDigit = true)
    (hFraction : ∀ d ∈ fraction, d.isDigit = true)
    (hRest : ∀ c ∈ rest.head?, c.isDigit = false)
    (hExponent : readExponent? rest = some e) :
    readUnsigned? (whole ++ '.' :: (fraction ++ rest)) =
      some
        ⟨Nat.ofDigitChars 10 (whole ++ fraction) 0,
          e - fraction.length⟩ := by
  have hPoint :
      ∀ c ∈ ('.' :: (fraction ++ rest)).head?,
        c.isDigit = false := by
    simp
  simp only [readUnsigned?, span_digits hWhole hPoint,
    readFraction, span_digits hFraction hRest, hExponent]
  simp [hNonempty]

/- Digits without a point, and what follows as an exponent. -/
theorem readUnsigned?_whole
    (hNonempty : whole ≠ [])
    (hWhole : ∀ d ∈ whole, d.isDigit = true)
    (hRest :
      ∀ c ∈ rest.head?, c.isDigit = false ∧ c ≠ '.')
    (hExponent : readExponent? rest = some e) :
    readUnsigned? (whole ++ rest) =
      some ⟨Nat.ofDigitChars 10 whole 0, e⟩ := by
  have hNoDigit : ∀ c ∈ rest.head?, c.isDigit = false :=
    fun c hMem => (hRest c hMem).1
  have hNoPoint : readFraction rest = ([], rest) := by
    cases rest with
    | nil => rfl
    | cons c more =>
        have hHead : c ≠ '.' := (hRest c rfl).2
        simp [readFraction, hHead]
  simp only [readUnsigned?, span_digits hWhole hNoDigit,
    hNoPoint, hExponent]
  simp [hNonempty]

/-
  A text that begins with a digit, with a minus in front or
  not, is no word and is read as a number.
-/
theorem readPlain?_withSign
    (negative : Bool)
    {d : Char}
    (hDigit : d.isDigit = true)
    (rest : List Char) :
    readPlain? (withSign negative (d :: rest)) =
      (readUnsigned? (d :: rest)).map (ofDecimal negative) := by
  have hSign :
      readSign (withSign negative (d :: rest)) =
        (negative, d :: rest) := by
    cases negative with
    | true => rfl
    | false =>
        have hSigns : d ≠ '-' ∧ d ≠ '+' :=
          of_isDigit (P := fun c => c ≠ '-' ∧ c ≠ '+')
            (by decide) hDigit
        simp [withSign, readSign, hSigns]
  have hLetters :
      d.toLower ≠ 'i' ∧ d.toLower ≠ 'n' :=
    of_isDigit
      (P := fun c => c.toLower ≠ 'i' ∧ c.toLower ≠ 'n')
      (by decide) hDigit
  have hNotInfinity :
      (d :: rest).map Char.toLower ∉ infinityNames := by
    simp [infinityNames, hLetters.1]
  have hNotNan :
      (d :: rest).map Char.toLower ≠ "nan".toList := by
    simp [hLetters.2]
  simp only [readPlain?, hSign, hNotInfinity, hNotNan,
    if_false]

end Double

end MathScan

------------------------------------------------------------
-- Digits Alone
------------------------------------------------------------

namespace MathScan

namespace Double

/-
  Digits, with a minus in front or not, are read as what the
  whole number that they spell is rounded to.
-/
theorem read?_withSign_digits
    {ds : List Char}
    (hNonempty : ds ≠ [])
    (hDigits : ∀ d ∈ ds, d.isDigit = true)
    (negative : Bool) :
    read? (withSign negative ds) =
      some
        (ofMagnitude? negative
          (Magnitude.ofRatio? (Nat.ofDigitChars 10 ds 0) 1)) := by
  have hBare : ∀ c ∈ withSign negative ds, Bare c := by
    have hOwn : ∀ d ∈ ds, Bare d :=
      fun d hMem => bare_of_isDigit (hDigits d hMem)
    cases negative with
    | true => exact List.forall_mem_cons.mpr ⟨by decide, hOwn⟩
    | false => exact hOwn
  have hWhole :
      readUnsigned? (ds ++ []) =
        some ⟨Nat.ofDigitChars 10 ds 0, 0⟩ :=
    readUnsigned?_whole hNonempty hDigits (by simp) rfl
  rw [List.append_nil] at hWhole
  rw [read?_of_bare hBare]
  rcases List.exists_cons_of_ne_nil hNonempty with
    ⟨d, rest, rfl⟩
  rw [readPlain?_withSign negative (hDigits d (by simp)), hWhole,
    Option.map_some, ofDecimal, Magnitude.ofDecimal?_natural]

/-
  A text of digits is read as the double nearest to the whole
  number that it spells.
-/
theorem read?_digits
    {ds : List Char}
    (hNonempty : ds ≠ [])
    (hDigits : ∀ d ∈ ds, d.isDigit = true) :
    read? ds =
      some (ofNat (Nat.ofDigitChars 10 ds 0)) :=
  read?_withSign_digits hNonempty hDigits false

end Double

end MathScan
