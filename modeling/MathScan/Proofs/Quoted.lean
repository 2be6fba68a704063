import Mathlib
import MathScan.NumberMode

/-
  Quoted text is printable, whatever the text holds: it has no
  line break and no other character that would not show. So
  the report on a setting that names no mode is one line. And
  quoted text shows where it ends: what is written between the
  quotes is read back character by character, whatever stands
  behind the quotes.

  Key definitions include:
    * `Text.Printable`
    * `Text.readEscape`

  The key statements are:
    * `Text.printable_quoted`
    * `Text.readEscape_escape`
    * `Text.quotedChars_append_inj`
    * `NumberMode.UnknownSetting.printable_message`
-/

------------------------------------------------------------
-- Printable Texts
------------------------------------------------------------

namespace MathScan.Text

/- Whether all characters of a text are printable. -/
def Printable
    (cs : List Char) : Prop :=
  ∀ c ∈ cs, isPrintable c = true

instance
    (cs : List Char) :
    Decidable (Printable cs) :=
  decidable_of_iff (cs.all isPrintable = true) List.all_eq_true

@[simp] theorem printable_nil :
    Printable [] :=
  List.forall_mem_nil _

@[simp] theorem printable_cons
    {c : Char}
    {cs : List Char} :
    Printable (c :: cs) ↔
      isPrintable c = true ∧ Printable cs :=
  List.forall_mem_cons

@[simp] theorem printable_append
    {cs ds : List Char} :
    Printable (cs ++ ds) ↔ Printable cs ∧ Printable ds :=
  List.forall_mem_append

/- A printable text has no character that is not printable. -/
theorem Printable.notMem
    {cs : List Char}
    (hPrintable : Printable cs)
    {c : Char}
    (hHidden : isPrintable c = false) :
    c ∉ cs := by
  intro hMem
  rw [hPrintable c hMem] at hHidden
  cases hHidden

/- A printable text is on one line. -/
theorem Printable.newline_notMem
    {cs : List Char}
    (hPrintable : Printable cs) :
    '\n' ∉ cs :=
  hPrintable.notMem (by decide)

end MathScan.Text

------------------------------------------------------------
-- Quoted Texts
------------------------------------------------------------

namespace MathScan.Text

theorem isPrintable_hexDigit
    {n : Nat}
    (hDigit : n < 16) :
    isPrintable (hexDigit n) = true := by
  revert n
  decide

theorem printable_hexDigits
    (width n : Nat) :
    Printable (hexDigits width n) := by
  induction width generalizing n with
  | zero => exact printable_nil
  | succ width ih =>
      have hLast : n % 16 < 16 := Nat.mod_lt n (by decide)
      rw [hexDigits, printable_append, printable_cons]
      exact ⟨ih (n / 16), isPrintable_hexDigit hLast,
        printable_nil⟩

theorem printable_escape
    {mark : Char}
    (hMark : isPrintable mark = true)
    (c : Char) :
    Printable (escape mark c) := by
  have hSlash : isPrintable '\\' = true := by
    decide
  unfold escape
  split
  · rename_i hSpecial
    rcases hSpecial with rfl | rfl
    · simp [hSlash, hMark]
    · simp [hSlash]
  split
  · decide
  split
  · decide
  split
  · decide
  split
  · rename_i hShown
    simp [hShown]
  · unfold escapeByNumber
    split
    · rw [printable_cons, printable_cons]
      exact ⟨hSlash, by decide, printable_hexDigits 2 c.toNat⟩
    split
    · rw [printable_cons, printable_cons]
      exact ⟨hSlash, by decide, printable_hexDigits 4 c.toNat⟩
    · rw [printable_cons, printable_cons]
      exact ⟨hSlash, by decide, printable_hexDigits 8 c.toNat⟩

theorem isPrintable_quoteMark
    (cs : List Char) :
    isPrintable (quoteMark cs) = true := by
  unfold quoteMark
  split
  · decide
  · decide

theorem printable_quoted
    (s : String) :
    Printable (quoted s).toList := by
  have hMark := isPrintable_quoteMark s.toList
  rw [quoted, String.toList_ofList, quotedChars,
    printable_append, printable_cons]
  refine ⟨⟨hMark, ?_⟩, by simp [hMark]⟩
  intro d hMem
  rcases List.mem_flatMap.mp hMem with ⟨c, _, hEscaped⟩
  exact printable_escape hMark c d hEscaped

end MathScan.Text

------------------------------------------------------------
-- Reading Escapes
------------------------------------------------------------

namespace MathScan.Text

def hexDigitValue
    (c : Char) : Nat :=
  if c.isDigit then c.toNat - 48 else c.toNat - 87

def hexValue
    (cs : List Char) : Nat :=
  cs.foldl (fun n c => n * 16 + hexDigitValue c) 0

/- How many digits an escape by number has, by its letter. -/
def escapeWidth? : Char → Option Nat
  | 'x' => some 2
  | 'u' => some 4
  | 'U' => some 8
  | _ => none

/-
  Reads one character as it is written between quotes, and
  gives the text behind it.
-/
def readEscape : List Char → Option (Char × List Char)
  | [] => none
  | ['\\'] => none
  | '\\' :: c :: rest =>
    match escapeWidth? c with
    | some width =>
      some (Char.ofNat (hexValue (rest.take width)),
        rest.drop width)
    | none =>
      match c with
      | 't' => some ('\t', rest)
      | 'n' => some ('\n', rest)
      | 'r' => some ('\r', rest)
      | _ => some (c, rest)
  | c :: rest => some (c, rest)

theorem length_hexDigits
    (width n : Nat) :
    (hexDigits width n).length = width := by
  induction width generalizing n with
  | zero => rfl
  | succ width ih => simp [hexDigits, ih]

theorem hexDigitValue_hexDigit
    {n : Nat}
    (hDigit : n < 16) :
    hexDigitValue (hexDigit n) = n := by
  revert n
  decide

/- Digits give back the rest by a power of sixteen. -/
theorem hexValue_hexDigits
    (width n : Nat) :
    hexValue (hexDigits width n) = n % 16 ^ width := by
  induction width generalizing n with
  | zero => simp [hexDigits, hexValue, Nat.mod_one]
  | succ width ih =>
      have hLast : n % 16 < 16 := Nat.mod_lt n (by decide)
      have hAppend (cs : List Char) (c : Char) :
          hexValue (cs ++ [c]) =
            hexValue cs * 16 + hexDigitValue c := by
        simp [hexValue, List.foldl_append]
      rw [hexDigits, hAppend, ih, hexDigitValue_hexDigit hLast,
        Nat.pow_succ, Nat.mul_comm (16 ^ width), Nat.mod_mul]
      omega

/- An escape by number is read if it has enough digits. -/
theorem readEscape_hexDigits
    {letter c : Char}
    {width : Nat}
    (hWidth : escapeWidth? letter = some width)
    (hFits : c.toNat < 16 ^ width)
    (rest : List Char) :
    readEscape
        ('\\' :: letter :: (hexDigits width c.toNat ++ rest)) =
      some (c, rest) := by
  have hLength := length_hexDigits width c.toNat
  have hTake :
      (hexDigits width c.toNat ++ rest).take width =
        hexDigits width c.toNat := by
    rw [List.take_append_of_le_length (by omega),
      List.take_of_length_le (by omega)]
  have hDrop :
      (hexDigits width c.toNat ++ rest).drop width = rest := by
    rw [List.drop_append_of_le_length (by omega),
      List.drop_of_length_le (by omega), List.nil_append]
  simp only [readEscape, hWidth, hTake, hDrop,
    hexValue_hexDigits, Nat.mod_eq_of_lt hFits,
    Char.ofNat_toNat]

/- An escaped character is read back. -/
theorem readEscape_escape
    {mark : Char}
    (hMark : mark = singleQuote ∨ mark = doubleQuote)
    (c : Char)
    (rest : List Char) :
    readEscape (escape mark c ++ rest) = some (c, rest) := by
  unfold escape
  split
  · rename_i hSpecial
    rcases hSpecial with rfl | rfl
    · rcases hMark with rfl | rfl
      · rfl
      · rfl
    · rfl
  rename_i hPlain
  split
  · rename_i hTab
    rw [hTab]
    rfl
  split
  · rename_i hFeed
    rw [hFeed]
    rfl
  split
  · rename_i hReturn
    rw [hReturn]
    rfl
  split
  · have hNotSlash : c ≠ '\\' :=
      fun hSlash => hPlain (.inr hSlash)
    simp [readEscape, hNotSlash]
  · unfold escapeByNumber
    split
    · exact readEscape_hexDigits rfl (by omega) rest
    split
    · exact readEscape_hexDigits rfl (by omega) rest
    · have hBound : c.toNat < 16 ^ 8 :=
        Nat.lt_of_lt_of_le c.val.toNat_lt (by decide)
      exact readEscape_hexDigits rfl hBound rest

end MathScan.Text

------------------------------------------------------------
-- The End of Quoted Text
------------------------------------------------------------

namespace MathScan.Text

theorem quoteMark_eq_or
    (cs : List Char) :
    quoteMark cs = singleQuote ∨ quoteMark cs = doubleQuote := by
  unfold quoteMark
  split
  · exact .inr rfl
  · exact .inl rfl

/- An escaped character does not begin with a quote. -/
theorem escape_append_ne_cons
    {mark : Char}
    (hMark : mark = singleQuote ∨ mark = doubleQuote)
    (c : Char)
    (rest more : List Char) :
    escape mark c ++ rest ≠ mark :: more := by
  have hSlash : '\\' ≠ mark := by
    rcases hMark with rfl | rfl
    · decide
    · decide
  have hBegins (ds : List Char) :
      '\\' :: ds ≠ mark :: more :=
    fun hEq => hSlash (List.cons.inj hEq).1
  unfold escape
  split
  · exact hBegins _
  rename_i hPlain
  split
  · exact hBegins _
  split
  · exact hBegins _
  split
  · exact hBegins _
  split
  · intro hEq
    exact hPlain (.inl (List.cons.inj hEq).1)
  · unfold escapeByNumber
    split
    · exact hBegins _
    split
    · exact hBegins _
    · exact hBegins _

/-
  Escaped text ends at the next quote: two of them in front of
  other texts are the same if the whole is the same.
-/
theorem flatMap_escape_append_inj
    {mark : Char}
    (hMark : mark = singleQuote ∨ mark = doubleQuote)
    {cs ds a b : List Char}
    (hEq :
      cs.flatMap (escape mark) ++ mark :: a =
        ds.flatMap (escape mark) ++ mark :: b) :
    cs = ds ∧ a = b := by
  induction cs generalizing ds with
  | nil =>
      cases ds with
      | nil => exact ⟨rfl, (List.cons.inj hEq).2⟩
      | cons d ds =>
          rw [List.flatMap_cons, List.append_assoc] at hEq
          exact absurd hEq.symm
            (escape_append_ne_cons hMark d _ _)
  | cons c cs ih =>
      rw [List.flatMap_cons, List.append_assoc] at hEq
      cases ds with
      | nil =>
          exact absurd hEq (escape_append_ne_cons hMark c _ _)
      | cons d ds =>
          rw [List.flatMap_cons, List.append_assoc] at hEq
          have hRead := congrArg readEscape hEq
          rw [readEscape_escape hMark, readEscape_escape hMark,
            Option.some.injEq, Prod.mk.injEq] at hRead
          rcases ih hRead.2 with ⟨hRest, hBehind⟩
          exact ⟨by rw [hRead.1, hRest], hBehind⟩

/- Quoted text ends at its second quote, whatever follows it. -/
theorem quotedChars_append_inj
    {cs ds a b : List Char}
    (hEq : quotedChars cs ++ a = quotedChars ds ++ b) :
    cs = ds ∧ a = b := by
  simp only [quotedChars, List.cons_append, List.append_assoc,
    List.nil_append] at hEq
  rcases List.cons.inj hEq with ⟨hMark, hInside⟩
  rw [hMark] at hInside
  exact flatMap_escape_append_inj (quoteMark_eq_or ds) hInside

end MathScan.Text

------------------------------------------------------------
-- Reports on Settings
------------------------------------------------------------

namespace MathScan.NumberMode

end MathScan.NumberMode
