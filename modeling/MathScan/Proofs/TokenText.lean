import MathScan.Proofs.Places
import MathScan.Proofs.Quoted
import MathScan.Proofs.ReadBack
import MathScan.Token.Basic

/-
  What is printed for a token tells the token. The text of a
  token shows its kind, its lexeme and its value, whatever
  arrows, quotes and brackets these hold, and it is printable.
  The record of a token shows its location as well. So equal
  texts are those of equal tokens, and only for the two zeros
  are there equal tokens with different texts.

  Key definitions include:
    * `Value.OppositeZeros`

  The key statements are:
    * `Token.text_inj`
    * `Token.printable_text`
    * `Token.record_injective`
    * `Token.text_eq_iff_same`
    * `Token.record_eq_iff_text_eq`
-/

------------------------------------------------------------
-- Values
------------------------------------------------------------

namespace MathScan

namespace Value

/- The characters of a value as it is written out. -/
def chars : Value → List Char
  | text s => Text.quotedChars s.toList
  | number x => x.chars

theorem toList_record
    (v : Value) :
    v.record.toList = v.chars := by
  cases v with
  | text s => exact String.toList_ofList
  | number x => exact String.toList_ofList

/- No number looks like a quoted text. -/
theorem quotedChars_append_ne_chars
    {mark : Char}
    (hMark : mark = ',' ∨ mark = ')')
    (cs a b : List Char)
    (x : Double) :
    Text.quotedChars cs ++ a ≠ x.chars ++ mark :: b := by
  have hQuote :
      Text.quoteMark cs ≠ mark ∧
        Text.quoteMark cs ∉ numberChars := by
    rcases Text.quoteMark_eq_or cs with hSingle | hDouble
    · rw [hSingle]
      rcases hMark with rfl | rfl
      · decide
      · decide
    · rw [hDouble]
      rcases hMark with rfl | rfl
      · decide
      · decide
  intro hEq
  cases hChars : x.chars with
  | nil =>
      rw [hChars] at hEq
      exact hQuote.1 (List.cons.inj hEq).1
  | cons c more =>
      rw [hChars] at hEq
      have hFirst := (List.cons.inj hEq).1
      rw [hFirst] at hQuote
      apply hQuote.2
      apply x.chars_subset
      rw [hChars]
      exact List.mem_cons_self

/- A value ends at the mark behind it, whatever follows. -/
theorem chars_append_inj
    {mark : Char}
    (hMark : mark = ',' ∨ mark = ')')
    {v w : Value}
    {a b : List Char}
    (hEq : v.chars ++ mark :: a = w.chars ++ mark :: b) :
    v = w ∧ a = b := by
  cases v with
  | text s =>
      cases w with
      | text r =>
          rcases Text.quotedChars_append_inj hEq with
            ⟨hText, hBehind⟩
          rw [String.toList_injective hText]
          exact ⟨rfl, (List.cons.inj hBehind).2⟩
      | number y =>
          exact absurd hEq
            (quotedChars_append_ne_chars hMark _ _ _ y)
  | number x =>
      cases w with
      | text r =>
          exact absurd hEq.symm
            (quotedChars_append_ne_chars hMark _ _ _ x)
      | number y =>
          have hAbsent (z : Double) : mark ∉ z.chars := by
            intro hMem
            have hNumber := z.chars_subset hMem
            revert hNumber
            rcases hMark with rfl | rfl
            · decide
            · decide
          rcases append_firstMark_inj (hAbsent x) (hAbsent y)
              hEq with
            ⟨hChars, hBehind⟩
          rw [Double.chars_injective hChars]
          exact ⟨rfl, hBehind⟩

theorem printable_chars
    (v : Value) :
    Text.Printable v.chars := by
  cases v with
  | text s =>
      have hQuoted := Text.printable_quoted s
      rw [Text.quoted, String.toList_ofList] at hQuoted
      exact hQuoted
  | number x =>
      intro c hMem
      exact of_mem_of_all
        (P := fun d => Text.isPrintable d = true)
        (by decide) (x.chars_subset hMem)

end Value

end MathScan

------------------------------------------------------------
-- Kinds
------------------------------------------------------------

namespace MathScan

namespace TokenKind

/- The name of a kind ends at the mark behind it. -/
theorem label_append_inj
    {mark : Char}
    (hMark : mark = ',' ∨ mark = '(')
    {k l : TokenKind}
    {a b : List Char}
    (hEq :
      k.label.toList ++ mark :: a =
        l.label.toList ++ mark :: b) :
    k = l ∧ a = b := by
  have hAbsent (j : TokenKind) : mark ∉ j.label.toList := by
    rcases hMark with rfl | rfl
    · cases j <;> decide
    · cases j <;> decide
  rcases append_firstMark_inj (hAbsent k) (hAbsent l) hEq with
    ⟨hLabel, hBehind⟩
  refine ⟨?_, hBehind⟩
  revert hLabel
  cases k <;> cases l <;> decide

theorem printable_label
    (k : TokenKind) :
    Text.Printable k.label.toList := by
  cases k <;> decide

end TokenKind

end MathScan

------------------------------------------------------------
-- The Text of a Token
------------------------------------------------------------

namespace MathScan

namespace Token

/- What stands behind the lexeme in the text of a token. -/
def valueChars
    (t : Token) : List Char :=
  if t.value = .text t.lexeme then
    [')']
  else
    [' ', '-', '>', ' '] ++ t.value.chars ++ [')']

theorem toList_text
    (t : Token) :
    t.text.toList =
      t.kind.label.toList ++
        '(' :: (Text.quotedChars t.lexeme.toList ++
          t.valueChars) := by
  have hQuoted :
      (Text.quoted t.lexeme).toList =
        Text.quotedChars t.lexeme.toList :=
    String.toList_ofList
  unfold text valueChars
  split
  · simp [hQuoted]
  · simp [hQuoted, Value.toList_record]

/- What stands behind equal lexemes tells the value. -/
theorem valueChars_inj
    {t u : Token}
    (hLexeme : t.lexeme = u.lexeme)
    (hChars : t.valueChars = u.valueChars) :
    t.value = u.value := by
  unfold valueChars at hChars
  split at hChars
  · rename_i hPlain
    split at hChars
    · rename_i hOther
      rw [hPlain, hOther, hLexeme]
    · exact absurd (List.cons.inj hChars).1 (by decide)
  · split at hChars
    · exact absurd (List.cons.inj hChars).1 (by decide)
    · rw [List.append_assoc, List.append_assoc] at hChars
      have hValue := List.append_cancel_left hChars
      exact (Value.chars_append_inj (.inr rfl) hValue).1

/-
  The text of a token tells its kind, its lexeme and its
  value, and nothing else.
-/
theorem text_inj
    {t u : Token} :
    t.text = u.text ↔
      t.kind = u.kind ∧ t.lexeme = u.lexeme ∧
        t.value = u.value := by
  constructor
  · intro hText
    have hChars := congrArg String.toList hText
    rw [toList_text, toList_text] at hChars
    rcases TokenKind.label_append_inj (.inr rfl) hChars with
      ⟨hKind, hInside⟩
    rcases Text.quotedChars_append_inj hInside with
      ⟨hLexeme, hValue⟩
    have hSame := String.toList_injective hLexeme
    exact ⟨hKind, hSame, valueChars_inj hSame hValue⟩
  · rintro ⟨hKind, hLexeme, hValue⟩
    simp only [text, hKind, hLexeme, hValue]

theorem printable_text
    (t : Token) :
    Text.Printable t.text.toList := by
  have hLexeme := Text.printable_quoted t.lexeme
  rw [Text.quoted, String.toList_ofList] at hLexeme
  have hValue : Text.Printable t.valueChars := by
    unfold valueChars
    split
    · decide
    · rw [Text.printable_append, Text.printable_append]
      exact ⟨⟨by decide, t.value.printable_chars⟩, by decide⟩
  rw [toList_text, Text.printable_append, Text.printable_cons,
    Text.printable_append]
  exact ⟨t.kind.printable_label, by decide, hLexeme, hValue⟩

end Token

end MathScan

------------------------------------------------------------
-- The Record of a Location
------------------------------------------------------------

namespace MathScan

namespace Location

/- An integer ends at a mark behind it that is not part of it. -/
theorem toString_append_inj
    {mark : Char}
    (hMinus : mark ≠ '-')
    (hDigit : mark.isDigit = false)
    {m n : Int}
    {a b : List Char}
    (hEq :
      (toString m).toList ++ mark :: a =
        (toString n).toList ++ mark :: b) :
    m = n ∧ a = b := by
  have hAbsent (k : Int) : mark ∉ (toString k).toList := by
    intro hMem
    rcases isDigit_of_mem_toString hMem with rfl | hOwn
    · exact hMinus rfl
    · rw [hDigit] at hOwn
      cases hOwn
  rcases append_firstMark_inj (hAbsent m) (hAbsent n) hEq with
    ⟨hChars, hBehind⟩
  exact ⟨Int.repr_inj.mp (String.toList_injective hChars),
    hBehind⟩

theorem toList_record
    (place : Location) :
    place.record.toList =
      "SourceLocation(".toList ++
        (Text.quotedChars place.filename.toList ++
          ([',', ' '] ++ ((toString place.line).toList ++
            ',' :: ' ' :: ((toString place.column).toList ++
              ',' :: ' ' :: ((toString place.offset).toList ++
                [')']))))) := by
  have hQuoted :
      (Text.quoted place.filename).toList =
        Text.quotedChars place.filename.toList :=
    String.toList_ofList
  unfold record
  generalize "SourceLocation(" = opening
  simp [hQuoted]

/- The record of a location tells all its fields. -/
theorem record_append_inj
    {place other : Location}
    {a b : List Char}
    (hEq :
      place.record.toList ++ a = other.record.toList ++ b) :
    place = other ∧ a = b := by
  simp only [toList_record, List.append_assoc, List.cons_append,
    List.nil_append] at hEq
  have hFields := List.append_cancel_left hEq
  rcases Text.quotedChars_append_inj hFields with
    ⟨hName, hLine⟩
  rcases toString_append_inj (by decide) (by decide)
      (List.cons.inj (List.cons.inj hLine).2).2 with
    ⟨hLine, hColumn⟩
  rcases toString_append_inj (by decide) (by decide)
      (List.cons.inj hColumn).2 with
    ⟨hColumn, hOffset⟩
  rcases toString_append_inj (by decide) (by decide)
      (List.cons.inj hOffset).2 with
    ⟨hOffset, hBehind⟩
  cases place
  cases other
  cases String.toList_injective hName
  cases hLine
  cases hColumn
  cases hOffset
  exact ⟨rfl, hBehind⟩

end Location

end MathScan

------------------------------------------------------------
-- The Record of a Token
------------------------------------------------------------

namespace MathScan

namespace Token

/- The characters of a location that may be missing. -/
def locationChars
    (t : Token) : List Char :=
  (t.location.elim "None" Location.record).toList

theorem toList_record
    (t : Token) :
    t.record.toList =
      "Token(".toList ++
        (t.kind.label.toList ++
          ',' :: ' ' :: (Text.quotedChars t.lexeme.toList ++
            ([',', ' '] ++ (t.value.chars ++
              ',' :: ' ' :: (t.locationChars ++ [')']))))) := by
  have hQuoted :
      (Text.quoted t.lexeme).toList =
        Text.quotedChars t.lexeme.toList :=
    String.toList_ofList
  unfold record locationChars
  generalize "Token(" = opening
  simp [hQuoted, Value.toList_record]

/- A location is told from others and from a missing one. -/
theorem locationChars_append_inj
    {t u : Token}
    {a b : List Char}
    (hEq : t.locationChars ++ a = u.locationChars ++ b) :
    t.location = u.location := by
  have hMissing (place : Location) (cs ds : List Char) :
      "None".toList ++ cs ≠ place.record.toList ++ ds := by
    intro hEq
    have hFirst := congrArg List.head? hEq
    rw [Location.toList_record] at hFirst
    revert hFirst
    simp
  unfold locationChars at hEq
  cases hOwn : t.location with
  | none =>
      rw [hOwn] at hEq
      cases hOther : u.location with
      | none => rfl
      | some other =>
          rw [hOther] at hEq
          exact absurd hEq (hMissing other _ _)
  | some place =>
      rw [hOwn] at hEq
      cases hOther : u.location with
      | none =>
          rw [hOther] at hEq
          exact absurd hEq.symm (hMissing place _ _)
      | some other =>
          rw [hOther] at hEq
          rw [(Location.record_append_inj hEq).1]

/- The record of a token tells all its fields. -/
theorem record_injective :
    Function.Injective record := by
  intro t u hRecord
  have hChars := congrArg String.toList hRecord
  rw [toList_record, toList_record] at hChars
  have hFields := List.append_cancel_left hChars
  rcases TokenKind.label_append_inj (.inl rfl) hFields with
    ⟨hKind, hFields⟩
  rcases Text.quotedChars_append_inj (List.cons.inj hFields).2
    with ⟨hLexeme, hFields⟩
  rcases Value.chars_append_inj (.inl rfl)
      (List.append_cancel_left hFields) with
    ⟨hValue, hFields⟩
  have hLocation :=
    locationChars_append_inj (List.cons.inj hFields).2
  cases t
  cases u
  cases hKind
  cases String.toList_injective hLexeme
  cases hValue
  cases hLocation
  rfl

end Token

end MathScan

------------------------------------------------------------
-- Equal Tokens
------------------------------------------------------------

namespace MathScan

/- Only zero and minus zero are equal and not the same. -/
theorem Double.same_iff
    {x y : Double}
    (hNumber : x ≠ .nan) :
    x.same y = true ↔
      x = y ∨
        ∃ negative,
          x = .finite negative .zero ∧
            y = .finite (!negative) .zero := by
  cases x with
  | nan => exact absurd rfl hNumber
  | infinite a =>
      cases y <;> simp [same]
  | finite a m =>
      cases y with
      | nan => simp [same]
      | infinite b => simp [same]
      | finite b n =>
          have hZeros :
              m = n ∧ m = Magnitude.zero ↔
                m = .zero ∧ n = .zero := by
            constructor
            · rintro ⟨rfl, hZero⟩
              exact ⟨hZero, hZero⟩
            · rintro ⟨rfl, rfl⟩
              exact ⟨rfl, rfl⟩
          cases a <;> cases b <;> simp [same, hZeros]

namespace Value

/- Zero and minus zero, in either order. -/
def OppositeZeros
    (v w : Value) : Prop :=
  ∃ negative,
    v = .number (.finite negative .zero) ∧
      w = .number (.finite (!negative) .zero)

/- The two zeros are not the same value. -/
theorem OppositeZeros.ne
    {v w : Value}
    (hZeros : v.OppositeZeros w) :
    v ≠ w := by
  rcases hZeros with ⟨negative, rfl, rfl⟩
  simp

/- Only the two zeros are equal without being the same. -/
theorem same_iff
    {v w : Value}
    (hNumber : v ≠ .number .nan) :
    v.same w = true ↔ v = w ∨ v.OppositeZeros w := by
  cases v with
  | text s => cases w <;> simp [same, OppositeZeros]
  | number x =>
      have hProper : x ≠ .nan := by
        rintro rfl
        exact hNumber rfl
      cases w with
      | text r => simp [same, OppositeZeros]
      | number y =>
          simp [same, OppositeZeros, Double.same_iff hProper]

end Value

namespace Token

variable {t u : Token}

/-
  Tokens have the same text if they are equal, but for the
  sign of zero.
-/
theorem text_eq_iff_same
    (hNumber : t.value ≠ .number .nan) :
    t.text = u.text ↔
      t.same u = true ∧ ¬ t.value.OppositeZeros u.value := by
  rw [text_inj]
  simp only [same, Bool.and_eq_true, beq_iff_eq,
    Value.same_iff hNumber]
  constructor
  · rintro ⟨hKind, hLexeme, hValue⟩
    exact ⟨⟨⟨hKind, hLexeme⟩, .inl hValue⟩,
      fun hZeros => hZeros.ne hValue⟩
  · rintro
      ⟨⟨⟨hKind, hLexeme⟩, hValue | hZeros⟩, hProper⟩
    · exact ⟨hKind, hLexeme, hValue⟩
    · exact absurd hZeros hProper

/- Tokens with one record have one text and one location. -/
theorem record_eq_iff_text_eq :
    t.record = u.record ↔
      t.text = u.text ∧ t.location = u.location := by
  constructor
  · intro hRecord
    rw [record_injective hRecord]
    exact ⟨rfl, rfl⟩
  · rintro ⟨hText, hLocation⟩
    rcases text_inj.mp hText with ⟨hKind, hLexeme, hValue⟩
    simp only [record, hKind, hLexeme, hValue, hLocation]

end Token

end MathScan
