import MathScan.NumberMode
import MathScan.Proofs.Front
import MathScan.Proofs.LetterCase

/-
  The setting for numbers. Only one entry of an environment
  matters. Without blanks at its two ends it is one of two
  words, in any ASCII case, or there is nothing left of it, or
  it is refused in a report that shows it in lower case.
  Nothing beyond ASCII is taken for a letter of these words,
  whatever its lower case may be.

  Key definitions include:
    * `Text.Trimmed`
    * `NumberMode.ReadsSetting`

  The key statements are:
    * `Text.trimmed_trim`
    * `NumberMode.ofSetting_eq_ok_iff`
    * `NumberMode.ofEnvironment_readsSetting`
-/

------------------------------------------------------------
-- Trimmed Texts
------------------------------------------------------------

namespace MathScan.Text

/-
  A word that is left of a text if all blanks are taken off at
  the two ends of the text, and none of the word.
-/
structure Trimmed
    (cs word : List Char) : Prop where
  parts :
    ∃ before after, cs = before ++ word ++ after ∧
      Blank before ∧ Blank after
  first : ∀ c ∈ word.head?, isBlank c = false
  last : ∀ c ∈ word.getLast?, isBlank c = false

/- A text is trimmed at both of its ends. -/
theorem trimmed_trim
    (cs : List Char) :
    Trimmed cs (trim cs) := by
  have hFront :
      cs.takeWhile isBlank ++ cs.dropWhile isBlank = cs :=
    List.takeWhile_append_dropWhile
  have hFirst (c : Char)
      (hHead : c ∈ (cs.dropWhile isBlank).head?) :
      isBlank c = false :=
    head?_dropWhile_eq_false hHead
  unfold trim
  generalize cs.dropWhile isBlank = body at hFront hFirst ⊢
  have hBack :
      (body.reverse.dropWhile isBlank).reverse ++
          (body.reverse.takeWhile isBlank).reverse =
        body := by
    rw [← List.reverse_append, List.takeWhile_append_dropWhile,
      List.reverse_reverse]
  refine
    { parts :=
        ⟨cs.takeWhile isBlank,
          (body.reverse.takeWhile isBlank).reverse, ?_, ?_, ?_⟩
      first := ?_
      last := ?_ }
  · rw [List.append_assoc, hBack, hFront]
  · intro c hMem
    exact List.mem_takeWhile_imp hMem
  · intro c hMem
    exact List.mem_takeWhile_imp (List.mem_reverse.mp hMem)
  · intro c hHead
    apply hFirst c
    rw [← hBack, List.head?_append, Option.mem_def.mp hHead]
    rfl
  · intro c hLast
    rw [List.getLast?_reverse] at hLast
    exact head?_dropWhile_eq_false hLast

theorem trim_eq_nil_iff
    {cs : List Char} :
    trim cs = [] ↔ Blank cs := by
  have hTrimmed := trimmed_trim cs
  generalize trim cs = word at hTrimmed ⊢
  rcases hTrimmed.parts with ⟨before, after, rfl, hBefore, hAfter⟩
  constructor
  · rintro rfl c hMem
    rw [List.append_nil] at hMem
    rcases List.mem_append.mp hMem with hIn | hIn
    · exact hBefore c hIn
    · exact hAfter c hIn
  · intro hBlank
    cases word with
    | nil => rfl
    | cons c more =>
        have hOwn : isBlank c = true :=
          hBlank c (by simp)
        rw [hTrimmed.first c rfl] at hOwn
        cases hOwn

end MathScan.Text

------------------------------------------------------------
-- Words for Modes
------------------------------------------------------------

namespace MathScan.NumberMode

variable {mode : NumberMode} {setting : String}

/- A mode has one spelling, and no other mode has it. -/
theorem ofSpelling?_eq_some_iff
    {s : String} :
    ofSpelling? s = some mode ↔ s = mode.spelling := by
  constructor
  · intro hFind
    have hSame := List.find?_some hFind
    exact (beq_iff_eq.mp hSame).symm
  · rintro rfl
    cases mode with
    | singleDigit => decide
    | greedy => decide

/- No mode is spelled with other than ASCII, or with a k. -/
theorem plain_of_mem_spelling
    {c : Char}
    (hMem : c ∈ mode.spelling.toList) :
    c.toNat < 128 ∧ c ≠ 'k' := by
  cases mode with
  | singleDigit =>
      exact of_mem_of_all (P := fun d => d.toNat < 128 ∧ d ≠ 'k')
        (by decide) hMem
  | greedy =>
      exact of_mem_of_all (P := fun d => d.toNat < 128 ∧ d ≠ 'k')
        (by decide) hMem

/-
  A text is the spelling of a mode in lower case just if it is
  in ASCII lower case.
-/
theorem ofSpelling?_lowercase_iff
    (cs : List Char) :
    ofSpelling? (String.ofList (Text.lowercase cs)) = some mode ↔
      cs.map Char.toLower = mode.spelling.toList := by
  have hAscii (c : Char) (hMem : c ∈ mode.spelling.toList) :
      c.toNat < 128 :=
    (plain_of_mem_spelling hMem).1
  have hKelvin : 'k' ∉ mode.spelling.toList :=
    fun hMem => (plain_of_mem_spelling hMem).2 rfl
  rw [ofSpelling?_eq_some_iff, ← String.toList_inj,
    String.toList_ofList, Text.lowercase_eq_iff hAscii hKelvin]

/- A blank setting names the default. -/
theorem ofSetting_of_blank
    (hBlank : Text.Blank setting.toList) :
    ofSetting setting = .ok default := by
  rw [ofSetting, Text.trim_eq_nil_iff.mpr hBlank]
  rfl

/- A setting that is not blank is a word in lower case. -/
theorem ofSetting_of_not_blank
    (hSome : ¬ Text.Blank setting.toList) :
    ofSetting setting =
      let word :=
        String.ofList
          (Text.lowercase (Text.trim setting.toList))
      (ofSpelling? word).elim (.error ⟨word⟩) .ok := by
  have hWord :
      String.ofList
          (Text.lowercase (Text.trim setting.toList)) ≠ "" := by
    rw [Ne, ← String.toList_inj, String.toList_ofList,
      String.toList_empty, Text.lowercase_eq_nil_iff,
      Text.trim_eq_nil_iff]
    exact hSome
  unfold ofSetting
  simp only [if_neg hWord]
  split
  · rename_i hFound
    rw [hFound, Option.elim_some]
  · rename_i hFound
    rw [hFound, Option.elim_none]

/-
  A setting that is not blank names a mode just if it is the
  spelling of the mode, in any ASCII case.
-/
theorem ofSetting_eq_ok_iff
    (hSome : ¬ Text.Blank setting.toList) :
    ofSetting setting = .ok mode ↔
      (Text.trim setting.toList).map Char.toLower =
        mode.spelling.toList := by
  rw [ofSetting_of_not_blank hSome, ← ofSpelling?_lowercase_iff]
  cases hFound :
      ofSpelling?
        (String.ofList
          (Text.lowercase (Text.trim setting.toList))) with
  | none => simp [hFound]
  | some other => simp [hFound]

/- A setting that names no mode is refused as it is read. -/
theorem ofSetting_eq_error
    (hSome : ¬ Text.Blank setting.toList)
    (hNone :
      ∀ mode : NumberMode,
        (Text.trim setting.toList).map Char.toLower ≠
          mode.spelling.toList) :
    ofSetting setting =
      .error
        ⟨String.ofList
          (Text.lowercase (Text.trim setting.toList))⟩ := by
  have hWord :
      ofSpelling?
          (String.ofList
            (Text.lowercase (Text.trim setting.toList))) =
        none := by
    rw [Option.eq_none_iff_forall_ne_some]
    intro mode hSpelled
    exact hNone mode ((ofSpelling?_lowercase_iff _).mp hSpelled)
  simp only [ofSetting_of_not_blank hSome, hWord,
    Option.elim_none]

/- The report on a setting shows the setting. -/
theorem UnknownSetting.quoted_infix_message
    (fault : UnknownSetting) :
    (Text.quoted fault.setting).toList <:+:
      fault.message.toList := by
  unfold message
  simp only [String.toList_append, List.append_assoc]
  generalize (Text.quoted fault.setting).toList = shown
  rw [← List.append_assoc]
  exact ⟨_, _, List.append_assoc _ _ _⟩

end MathScan.NumberMode

------------------------------------------------------------
-- Settings of an Environment
------------------------------------------------------------

namespace MathScan.NumberMode

/-
  How an environment is read for the mode of numbers:

  No other entry makes a difference. The default holds if
  there is no entry, or a blank one. Any other entry is read
  without the blanks at its ends: it names a mode just if it
  is the spelling of that mode but for the case of ASCII
  letters, and so it has no character beyond ASCII. If it
  names none, it is refused, and the report on it shows it in
  quotes, without those blanks and in lower case.
-/
structure ReadsSetting
    (lookup : String → Option String) : Prop where
  eq_of_entry :
    ∀ other : String → Option String,
      other settingName = lookup settingName →
        ofEnvironment other = ofEnvironment lookup
  absent :
    lookup settingName = none →
      ofEnvironment lookup = .ok default
  blank :
    ∀ setting, lookup settingName = some setting →
      Text.Blank setting.toList →
        ofEnvironment lookup = .ok default
  trimmed :
    ∀ setting, lookup settingName = some setting →
      Text.Trimmed setting.toList (Text.trim setting.toList)
  eq_ok_iff :
    ∀ setting mode, lookup settingName = some setting →
      ¬ Text.Blank setting.toList →
        (ofEnvironment lookup = .ok mode ↔
          (Text.trim setting.toList).map Char.toLower =
            mode.spelling.toList)
  refused :
    ∀ setting, lookup settingName = some setting →
      ¬ Text.Blank setting.toList →
        (∀ mode : NumberMode,
          (Text.trim setting.toList).map Char.toLower ≠
            mode.spelling.toList) →
          ∃ fault, ofEnvironment lookup = .error fault ∧
            fault.setting.toList =
              Text.lowercase (Text.trim setting.toList) ∧
            (Text.quoted fault.setting).toList <:+:
              fault.message.toList
  ascii :
    ∀ setting mode, lookup settingName = some setting →
      ofEnvironment lookup = .ok mode →
        ∀ c ∈ Text.trim setting.toList, c.toNat < 128

theorem ofEnvironment_readsSetting
    (lookup : String → Option String) :
    ReadsSetting lookup := by
  have hEntry {setting : String}
      (hLookup : lookup settingName = some setting) :
      ofEnvironment lookup = ofSetting setting := by
    rw [ofEnvironment, hLookup, Option.getD_some]
  refine
    { eq_of_entry := ?_
      absent := ?_
      blank := ?_
      trimmed := fun setting _ => Text.trimmed_trim setting.toList
      eq_ok_iff := ?_
      refused := ?_
      ascii := ?_ }
  · intro other hOther
    rw [ofEnvironment, ofEnvironment, hOther]
  · intro hAbsent
    rw [ofEnvironment, hAbsent]
    exact ofSetting_of_blank (List.forall_mem_nil _)
  · intro setting hLookup hBlank
    rw [hEntry hLookup, ofSetting_of_blank hBlank]
  · intro setting mode hLookup hSome
    rw [hEntry hLookup, ofSetting_eq_ok_iff hSome]
  · intro setting hLookup hSome hNone
    rw [hEntry hLookup, ofSetting_eq_error hSome hNone]
    exact ⟨_, rfl, String.toList_ofList,
      UnknownSetting.quoted_infix_message _⟩
  · intro setting mode hLookup hOk c hMem
    have hSome : ¬ Text.Blank setting.toList := by
      intro hBlank
      rw [Text.trim_eq_nil_iff.mpr hBlank] at hMem
      cases hMem
    rw [hEntry hLookup, ofSetting_eq_ok_iff hSome] at hOk
    have hIn : c.toLower ∈ mode.spelling.toList := by
      rw [← hOk]
      exact List.mem_map_of_mem hMem
    by_contra hBeyond
    rw [Text.toLower_of_not_ascii (Nat.not_lt.mp hBeyond)] at hIn
    exact hBeyond (plain_of_mem_spelling hIn).1

end MathScan.NumberMode
