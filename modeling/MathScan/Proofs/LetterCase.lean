import Mathlib
import MathScan.Text.Case.Lower
import MathScan.Text.Case.Upper

/-
  Letter case and plain texts. Of all characters only the
  ASCII capitals become ASCII letters in lower case, but for
  two: the dotted capital I, which brings a mark with it, and
  the Kelvin sign. So a text becomes an ASCII word without the
  letter k just if it differs from that word in the case of
  its ASCII letters. And no upper case has a line feed in it
  that was not there before.

  Key definitions include:
    * `CaseRow.Above`
    * `lowerAt`

  The key statements are:
    * `lowercase_eq_iff`
    * `newline_mem_uppercase_iff`
-/

------------------------------------------------------------
-- Rows of Case Tables
------------------------------------------------------------

namespace MathScan.Text

namespace CaseRow

variable {row : CaseRow} {rows : List CaseRow}
variable {bound n : Nat} {c : Char}

theorem bounds_of_holds
    (hHolds : row.holds n = true) :
    row.first ≤ n ∧ n ≤ row.last := by
  simp only [holds, Bool.and_eq_true, decide_eq_true_eq]
    at hHolds
  exact hHolds.1

/-
  Whether the other cases of a row are characters, none of
  which lies below a bound.
-/
def Above
    (row : CaseRow)
    (bound : Nat) : Prop :=
  bound ≤ row.first + row.shift ∧
    (row.last + row.shift < 0xD800 ∨
      0xDFFF < row.first + row.shift ∧
        row.last + row.shift < 0x110000)

instance
    (row : CaseRow)
    (bound : Nat) :
    Decidable (row.Above bound) := by
  unfold Above
  infer_instance

/- The other case by a row is not below the bound of the row. -/
theorem Above.le_toNat
    (hAbove : row.Above bound)
    (hHolds : row.holds n = true) :
    bound ≤ (Char.ofNat (row.apply n)).toNat := by
  rcases bounds_of_holds hHolds with ⟨hFirst, hLast⟩
  rcases hAbove with ⟨hBound, hProper⟩
  have hValid : (row.apply n).isValidChar := by
    unfold Nat.isValidChar apply
    omega
  rw [Char.toNat_ofNat, if_pos hValid, apply]
  omega

/-
  The other case of a character is that of a row that holds
  it; if there is none, the character stays as it is.
-/
theorem find_cases
    (rows : List CaseRow)
    (c : Char) :
    ((∀ row ∈ rows, row.holds c.toNat = false) ∧
        find rows c = c) ∨
      ∃ row ∈ rows, row.holds c.toNat = true ∧
        find rows c = Char.ofNat (row.apply c.toNat) := by
  unfold find
  cases hFind : rows.find? (fun row => row.holds c.toNat) with
  | none =>
      left
      refine ⟨?_, rfl⟩
      simpa using List.find?_eq_none.mp hFind
  | some row =>
      have hHolds := List.find?_some hFind
      exact .inr ⟨row, List.mem_of_find?_eq_some hFind, hHolds,
        rfl⟩

end CaseRow

end MathScan.Text

------------------------------------------------------------
-- Lower Case
------------------------------------------------------------

namespace MathScan.Text

variable {c : Char} {word : List Char}

/- The lower case of a character between other characters. -/
def lowerAt
    (before : List Char)
    (c : Char)
    (after : List Char) : List Char :=
  if c = capitalSigma then
    [lowerSigma before after]
  else
    lowerChar c

/- The capitals of ASCII. -/
def capitalRow : CaseRow :=
  ⟨0x41, 0x5A, 1, 32⟩

/- The Kelvin sign, which is in lower case a plain letter. -/
def kelvinRow : CaseRow :=
  ⟨0x212A, 0x212A, 1, -8383⟩

/- All other rows are of characters beyond ASCII, and lead there. -/
theorem lowerRows_cases :
    ∀ row ∈ lowerRows,
      row = capitalRow ∨ row = kelvinRow ∨
        128 ≤ row.first ∧ row.Above 128 := by
  decide +kernel

/- All characters but the capitals of ASCII stay as they are. -/
theorem toLower_of_not_capital
    (hOther : capitalRow.holds c.toNat = false) :
    c.toLower = c := by
  have hNotUpper : ¬ (c.val ≥ 'A'.val ∧ c.val ≤ 'Z'.val) := by
    rintro ⟨hFrom, hUpTo⟩
    have hFirst : 0x41 ≤ c.toNat := UInt32.le_iff_toNat_le.mp hFrom
    have hLast : c.toNat ≤ 0x5A := UInt32.le_iff_toNat_le.mp hUpTo
    simp [CaseRow.holds, capitalRow, hFirst, hLast, Nat.mod_one]
      at hOther
  rw [Char.toLower, dif_neg hNotUpper]

theorem toLower_of_capital
    (hCapital : capitalRow.holds c.toNat = true) :
    c.toLower = Char.ofNat (capitalRow.apply c.toNat) := by
  have hAll :
      ∀ n < 0x5B, 0x41 ≤ n →
        (Char.ofNat n).toLower =
          Char.ofNat (capitalRow.apply n) := by
    decide
  rcases CaseRow.bounds_of_holds hCapital with ⟨hFirst, hLast⟩
  have hOwn := hAll c.toNat (Nat.lt_succ_of_le hLast) hFirst
  rw [Char.ofNat_toNat] at hOwn
  exact hOwn

/- The lower case of an ASCII character is an ASCII character. -/
theorem lowerAt_of_ascii
    (before after : List Char)
    (hAscii : c.toNat < 128) :
    lowerAt before c after = [c.toLower] := by
  have hNotSigma : c ≠ capitalSigma := by
    rintro rfl
    exact absurd hAscii (by decide)
  have hNotDotted : c.toNat ≠ 0x130 := by
    omega
  rw [lowerAt, if_neg hNotSigma, lowerChar, if_neg hNotDotted]
  rcases CaseRow.find_cases lowerRows c with
    ⟨hNone, hSame⟩ | ⟨row, hRow, hHolds, hFind⟩
  · have hOther : capitalRow.holds c.toNat = false :=
      hNone capitalRow (by decide)
    rw [hSame, toLower_of_not_capital hOther]
  · have hBounds := CaseRow.bounds_of_holds hHolds
    rcases lowerRows_cases row hRow with
      rfl | rfl | ⟨hBeyond, _⟩
    · rw [hFind, toLower_of_capital hHolds]
    · simp only [kelvinRow] at hBounds
      omega
    · omega

/-
  The lower case of any other character has a character that
  is not ASCII, or it is that of the Kelvin sign.
-/
theorem exists_mem_lowerAt
    (before after : List Char)
    (hBeyond : 128 ≤ c.toNat) :
    ∃ d ∈ lowerAt before c after, 128 ≤ d.toNat ∨ d = 'k' := by
  unfold lowerAt
  split
  · refine ⟨_, List.mem_singleton_self _, .inl ?_⟩
    unfold lowerSigma
    split
    · decide
    · decide
  unfold lowerChar
  split
  · exact ⟨Char.ofNat 0x307, by simp, .inl (by decide)⟩
  refine ⟨_, List.mem_singleton_self _, ?_⟩
  rcases CaseRow.find_cases lowerRows c with
    ⟨_, hSame⟩ | ⟨row, hRow, hHolds, hFind⟩
  · rw [hSame]
    exact .inl hBeyond
  · have hBounds := CaseRow.bounds_of_holds hHolds
    rw [hFind]
    rcases lowerRows_cases row hRow with
      rfl | rfl | ⟨_, hAbove⟩
    · simp only [capitalRow] at hBounds
      omega
    · have hSign : c.toNat = 0x212A := by
        simp only [kelvinRow] at hBounds
        omega
      rw [hSign]
      exact .inr (by decide)
    · exact .inl (hAbove.le_toNat hHolds)

/- A character that is not ASCII has no ASCII letter case. -/
theorem toLower_of_not_ascii
    (hBeyond : 128 ≤ c.toNat) :
    c.toLower = c := by
  apply toLower_of_not_capital
  cases hHolds : capitalRow.holds c.toNat with
  | false => rfl
  | true =>
      have hBounds := CaseRow.bounds_of_holds hHolds
      simp only [capitalRow] at hBounds
      omega

theorem lowercaseAfter_cons
    (before : List Char)
    (c : Char)
    (after : List Char) :
    lowercaseAfter before (c :: after) =
      lowerAt before c after ++
        lowercaseAfter (c :: before) after := rfl

/-
  A text becomes an ASCII word without the letter k in lower
  case just if its ASCII letters do, and all else is as it is
  in the word, whatever stands in front of the text.
-/
theorem lowercaseAfter_eq_iff
    (hAscii : ∀ d ∈ word, d.toNat < 128)
    (hKelvin : 'k' ∉ word)
    (before cs : List Char) :
    lowercaseAfter before cs = word ↔
      cs.map Char.toLower = word := by
  induction cs generalizing before word with
  | nil => rfl
  | cons c after ih =>
      rw [lowercaseAfter_cons, List.map_cons]
      by_cases hPlain : c.toNat < 128
      · rw [lowerAt_of_ascii before after hPlain,
          List.singleton_append]
        cases word with
        | nil => simp
        | cons d more =>
            rw [List.mem_cons, not_or] at hKelvin
            rw [List.cons.injEq, List.cons.injEq,
              ih (fun e hMem => hAscii e (List.mem_cons_of_mem d hMem))
                hKelvin.2]
      · have hBeyond : 128 ≤ c.toNat := by
          omega
        constructor
        · intro hWord
          rcases exists_mem_lowerAt before after hBeyond with
            ⟨d, hMem, hOther⟩
          have hIn : d ∈ word := by
            rw [← hWord]
            exact List.mem_append_left _ hMem
          rcases hOther with hHigh | rfl
          · have hLow := hAscii d hIn
            omega
          · exact absurd hIn hKelvin
        · intro hWord
          have hIn : c ∈ word := by
            rw [← hWord, toLower_of_not_ascii hBeyond]
            exact List.mem_cons_self
          exact absurd (hAscii c hIn) hPlain

/-
  A text is an ASCII word without the letter k in lower case
  just if it is in ASCII lower case.
-/
theorem lowercase_eq_iff
    (hAscii : ∀ d ∈ word, d.toNat < 128)
    (hKelvin : 'k' ∉ word)
    (cs : List Char) :
    lowercase cs = word ↔ cs.map Char.toLower = word :=
  lowercaseAfter_eq_iff hAscii hKelvin [] cs

/- Nothing vanishes in lower case. -/
theorem lowercase_eq_nil_iff
    (cs : List Char) :
    lowercase cs = [] ↔ cs = [] := by
  rw [lowercase_eq_iff (by simp) (by simp), List.map_eq_nil_iff]

end MathScan.Text

------------------------------------------------------------
-- Upper Case
------------------------------------------------------------

namespace MathScan.Text

variable {c : Char}

/- No row leads to a control character. -/
theorem upperRows_above :
    ∀ row ∈ upperRows, row.Above 32 := by
  decide +kernel

/- No character becomes several with a line feed among them. -/
theorem newline_notMem_upperExpansions :
    ∀ entry ∈ upperExpansions,
      '\n' ∉ entry.2.map Char.ofNat := by
  decide +kernel

/- Only the line feed has a line feed in its upper case. -/
theorem newline_mem_upperChar_iff :
    '\n' ∈ upperChar c ↔ c = '\n' := by
  constructor
  · intro hMem
    unfold upperChar at hMem
    split at hMem
    · rename_i codes hCodes
      have hEntry := List.lookup_eq_some_iff.mp hCodes
      rcases hEntry with ⟨front, back, hTable, _⟩
      have hIn : (c.toNat, codes) ∈ upperExpansions := by
        rw [hTable]
        simp
      exact absurd hMem
        (newline_notMem_upperExpansions _ hIn)
    · have hFeed := List.mem_singleton.mp hMem
      rcases CaseRow.find_cases upperRows c with
        ⟨_, hSame⟩ | ⟨row, hRow, hHolds, hFind⟩
      · rw [← hSame, ← hFeed]
      · have hHigh := (upperRows_above row hRow).le_toNat hHolds
        rw [← hFind, ← hFeed] at hHigh
        exact absurd hHigh (by decide)
  · rintro rfl
    decide

/- No line feed comes up in upper case, and none vanishes. -/
theorem newline_mem_uppercase_iff
    {cs : List Char} :
    '\n' ∈ uppercase cs ↔ '\n' ∈ cs := by
  simp only [uppercase, List.mem_flatMap,
    newline_mem_upperChar_iff, exists_eq_right]

end MathScan.Text
