import MathScan.Proofs.Dump
import MathScan.Proofs.TokenText
import MathScan.Text.Newlines

/-
  The lines that a run prints for its tokens. There is one for
  each token, unless the name of the source has line feeds,
  and each line tells its token and where it stands. So two
  runs under one name print the same only if they have found
  tokens that agree in all that is printed of them.

  Key definitions include:
    * `Text.lineBreaks`
    * `Token.Agrees`
    * `Token.Legible`
    * `CommandLine.ShowsTokens`
    * `CommandLine.LegibleRun`

  The key statements are:
    * `Text.lines_flatMap`
    * `CommandLine.dumpLine_append_inj`
    * `CommandLine.dumpLines_eq_iff`
    * `tokens_legible`
-/

------------------------------------------------------------
-- Lines and Line Breaks
------------------------------------------------------------

namespace MathScan.Text

/- The characters that are taken for the end of a line. -/
def lineBreaks : List Char :=
  ['\n', '\r', '\x0b', '\x0c', '\x1c', '\x1d', '\x1e', '\u0085',
    '\u2028', '\u2029']

/- No character that breaks a line is printable. -/
theorem isPrintable_of_mem_lineBreaks
    {c : Char}
    (hBreak : c ∈ lineBreaks) :
    isPrintable c = false :=
  of_mem_of_all (P := fun d => isPrintable d = false)
    (by decide +kernel) hBreak

/- A line in front of a text is the first of its lines. -/
theorem lines_append
    {line : List Char}
    (hFeed : '\n' ∉ line)
    (rest : List Char) :
    lines (line ++ '\n' :: rest) = line :: lines rest := by
  induction line with
  | nil => rfl
  | cons c more ih =>
      simp only [List.mem_cons, not_or] at hFeed
      rw [List.cons_append, lines, if_neg (Ne.symm hFeed.1),
        ih hFeed.2]

/- Lines that are ended by line feeds are read back. -/
theorem lines_flatMap
    {all : List (List Char)}
    (hFeed : ∀ line ∈ all, '\n' ∉ line) :
    lines (all.flatMap (· ++ ['\n'])) = all ++ [[]] := by
  induction all with
  | nil => rfl
  | cons line more ih =>
      rw [List.flatMap_cons, List.append_assoc,
        List.singleton_append, lines_append (hFeed line (by simp)),
        ih fun other hMem => hFeed other (by simp [hMem]),
        List.cons_append]

end MathScan.Text

------------------------------------------------------------
-- Lines of Tokens
------------------------------------------------------------

namespace MathScan

/- The line and the column of a token, if it stands anywhere. -/
def Token.lineColumn?
    (t : Token) : Option (Int × Int) :=
  t.location.map fun place => (place.line, place.column)

/- Tokens agree in all that a line shows of them. -/
structure Token.Agrees
    (t u : Token) : Prop where
  kind_eq : t.kind = u.kind
  lexeme_eq : t.lexeme = u.lexeme
  value_eq : t.value = u.value
  lineColumn?_eq : t.lineColumn? = u.lineColumn?

namespace CommandLine

variable {name : String} {t u : Token}

/- The line of a token, without the line feed at its end. -/
def lineChars
    (name : String)
    (t : Token) : List Char :=
  name.toList ++
    ':' :: ((lineColumn t).toList ++ '\t' :: t.text.toList)

theorem toList_dumpLine
    (name : String)
    (t : Token) :
    (dumpLine name t).toList = lineChars name t ++ ['\n'] := by
  simp [dumpLine, lineChars]

/- A line and a column are written with digits and signs. -/
theorem printable_lineColumn
    (t : Token) :
    Text.Printable (lineColumn t).toList := by
  have hInteger (n : Int) :
      Text.Printable (toString n).toList := by
    intro c hMem
    rcases Location.isDigit_of_mem_toString hMem with
      rfl | hDigit
    · decide
    · exact of_isDigit
        (P := fun d => Text.isPrintable d = true)
        (by decide) hDigit
  cases hPlace : t.location with
  | none =>
      simp [lineColumn, hPlace]
  | some place =>
      simp only [lineColumn, hPlace, Option.elim_some,
        String.toList_append, Text.printable_append]
      exact ⟨⟨hInteger place.line, by decide⟩,
        hInteger place.column⟩

/- The text of a place is that of its line and its column. -/
theorem lineColumn_eq
    (t : Token) :
    lineColumn t =
      t.lineColumn?.elim "" fun place =>
        toString place.1 ++ ":" ++ toString place.2 := by
  unfold lineColumn Token.lineColumn?
  cases t.location with
  | none => rfl
  | some place => rfl

theorem lineColumn_inj :
    lineColumn t = lineColumn u ↔
      t.lineColumn? = u.lineColumn? := by
  have hColon (place : Int × Int) :
      (toString place.1 ++ ":" ++ toString place.2).toList =
        (toString place.1).toList ++
          ':' :: (toString place.2).toList := by
    simp
  rw [lineColumn_eq, lineColumn_eq]
  generalize t.lineColumn? = own
  generalize u.lineColumn? = other
  constructor
  · intro hText
    have hChars := congrArg String.toList hText
    cases own with
    | none =>
        cases other with
        | none => rfl
        | some place =>
            rw [Option.elim_none, Option.elim_some, hColon]
              at hChars
            exact absurd hChars.symm (by simp)
    | some place =>
        cases other with
        | none =>
            rw [Option.elim_none, Option.elim_some, hColon]
              at hChars
            exact absurd hChars (by simp)
        | some another =>
            rw [Option.elim_some, Option.elim_some, hColon,
              hColon] at hChars
            rcases Location.toString_append_inj (by decide)
                (by decide) hChars with
              ⟨hLine, hColumn⟩
            have hSame :=
              Int.repr_inj.mp (String.toList_injective hColumn)
            rw [Prod.ext hLine hSame]
  · rintro rfl
    rfl

/- A line tells its token and where it ends. -/
theorem dumpLine_append_inj
    {a b : List Char}
    (hEq :
      (dumpLine name t).toList ++ a =
        (dumpLine name u).toList ++ b) :
    t.Agrees u ∧ a = b := by
  have hTab (r : Token) : '\t' ∉ (lineColumn r).toList :=
    (printable_lineColumn r).notMem (by decide)
  have hFeed (r : Token) : '\n' ∉ r.text.toList :=
    r.printable_text.notMem (by decide)
  simp only [toList_dumpLine, lineChars, List.append_assoc,
    List.cons_append, List.nil_append] at hEq
  have hPlaces := (List.cons.inj (List.append_cancel_left hEq)).2
  rcases append_firstMark_inj (hTab t) (hTab u) hPlaces with
    ⟨hPlace, hTexts⟩
  rcases append_firstMark_inj (hFeed t) (hFeed u) hTexts with
    ⟨hText, hBehind⟩
  rcases Token.text_inj.mp (String.toList_injective hText) with
    ⟨hKind, hLexeme, hValue⟩
  exact
    ⟨⟨hKind, hLexeme, hValue,
        lineColumn_inj.mp (String.toList_injective hPlace)⟩,
      hBehind⟩

theorem dumpLine_congr
    (hAgrees : t.Agrees u) :
    dumpLine name t = dumpLine name u := by
  have hText : t.text = u.text :=
    Token.text_inj.mpr
      ⟨hAgrees.kind_eq, hAgrees.lexeme_eq, hAgrees.value_eq⟩
  have hPlace : lineColumn t = lineColumn u :=
    lineColumn_inj.mpr hAgrees.lineColumn?_eq
  rw [dumpLine, dumpLine, hText, hPlace]

/-
  Tokens under one name are printed alike exactly if they
  agree one by one.
-/
theorem dumpLines_eq_iff
    {ts us : List Token} :
    String.join (ts.map (dumpLine name)) =
        String.join (us.map (dumpLine name)) ↔
      List.Forall₂ Token.Agrees ts us := by
  rw [← String.toList_inj, String.toList_join, String.toList_join]
  induction ts generalizing us with
  | nil =>
      cases us with
      | nil => simp
      | cons u us => simp [toList_dumpLine]
  | cons t ts ih =>
      cases us with
      | nil => simp [toList_dumpLine]
      | cons u us =>
          simp only [List.map_cons, List.flatMap_cons,
            List.forall₂_cons]
          constructor
          · intro hEq
            rcases dumpLine_append_inj hEq with
              ⟨hAgrees, hBehind⟩
            exact ⟨hAgrees, ih.mp hBehind⟩
          · rintro ⟨hAgrees, hBehind⟩
            rw [dumpLine_congr hAgrees, ih.mpr hBehind]

end CommandLine

end MathScan

------------------------------------------------------------
-- What a Run Prints
------------------------------------------------------------

namespace MathScan.CommandLine

/-
  What an output shows of the tokens of a named source:

  If the name has no line feed, the lines of the output are
  those of the tokens, one for each, and nothing stands behind
  the last of them. Whatever else may break a line is only in
  the output if it is in the name.
-/
structure ShowsTokens
    (name : String)
    (tokens : List Token)
    (output : String) : Prop where
  lines_eq :
    '\n' ∉ name.toList →
      Text.lines output.toList =
        tokens.map (lineChars name) ++ [[]]
  lineBreak_eq :
    ∀ c ∈ Text.lineBreaks, c ∈ output.toList →
      c = '\n' ∨ c ∈ name.toList

/- What a line has in it besides the name. -/
theorem mem_lineChars
    {name : String}
    {t : Token}
    {c : Char}
    (hMem : c ∈ lineChars name t) :
    c ∈ name.toList ∨
      Text.isPrintable c = true ∨ c = '\t' := by
  simp only [lineChars, List.mem_append, List.mem_cons] at hMem
  rcases hMem with hName | rfl | hPlace | rfl | hText
  · exact .inl hName
  · exact .inr (.inl (by decide))
  · exact .inr (.inl (printable_lineColumn t c hPlace))
  · exact .inr (.inr rfl)
  · exact .inr (.inl (t.printable_text c hText))

/- The lines of tokens show the tokens. -/
theorem showsTokens_join
    (name : String)
    (tokens : List Token) :
    ShowsTokens name tokens
      (String.join (tokens.map (dumpLine name))) := by
  have hLines :
      (String.join (tokens.map (dumpLine name))).toList =
        (tokens.map (lineChars name)).flatMap (· ++ ['\n']) := by
    simp only [String.toList_join, List.flatMap_map,
      toList_dumpLine]
  constructor
  · intro hName
    rw [hLines]
    apply Text.lines_flatMap
    intro line hMem hFeed
    rcases List.mem_map.mp hMem with ⟨t, _, rfl⟩
    rcases mem_lineChars hFeed with hInside | hShown | hTab
    · exact hName hInside
    · exact absurd hShown (by decide)
    · exact absurd hTab (by decide)
  · intro c hBreak hMem
    rw [hLines] at hMem
    rcases List.mem_flatMap.mp hMem with ⟨line, hLine, hInside⟩
    rcases List.mem_map.mp hLine with ⟨t, _, rfl⟩
    rcases List.mem_append.mp hInside with hChars | hFeed
    · have hHidden := Text.isPrintable_of_mem_lineBreaks hBreak
      rcases mem_lineChars hChars with hName | hShown | rfl
      · exact .inr hName
      · rw [hHidden] at hShown
        cases hShown
      · exact absurd hBreak (by decide)
    · exact .inl (List.mem_singleton.mp hFeed)

/-
  What the output of a run tells that reads some bytes:

  If it reads a text, the output shows the tokens of a drain of
  the text. Another run that scans a text under the same name
  has the same output exactly if its tokens agree with these
  one by one.
-/
structure LegibleRun
    {closed : Bool}
    (arguments : List String)
    (world : World closed)
    (mode : NumberMode)
    (name : String)
    (reading : InputReading closed) : Prop where
  shows :
    ∀ source, reading = .ok source →
      ∃ outcome, run arguments world = .ok outcome ∧
        ShowsTokens name
          (Scanner.ofChars source name mode).drain.tokens
          outcome.output
  output_eq_iff :
    ∀ (otherClosed : Bool) (otherArguments : List String)
      (otherWorld : World otherClosed) otherMode otherVerbose
      otherBytes (otherReading : InputReading otherClosed),
      Scans otherArguments otherWorld otherMode otherVerbose name
          otherBytes otherReading →
        ∀ source otherSource,
          reading = .ok source →
            otherReading = .ok otherSource →
              ∃ outcome other,
                run arguments world = .ok outcome ∧
                  run otherArguments otherWorld = .ok other ∧
                  (outcome.output = other.output ↔
                    List.Forall₂ Token.Agrees
                      (Scanner.ofChars source name
                        mode).drain.tokens
                      (Scanner.ofChars otherSource name
                        otherMode).drain.tokens)

theorem legibleRun_of_scans
    {closed : Bool}
    {arguments : List String}
    {world : World closed}
    {mode : NumberMode}
    {verbose : Bool}
    {name : String}
    {bytes : List UInt8}
    {reading : InputReading closed}
    (hScans :
      Scans arguments world mode verbose name bytes reading) :
    LegibleRun arguments world mode name reading := by
  constructor
  · intro source hText
    exact ⟨_, run_of_scans_named hScans hText name,
      showsTokens_join name _⟩
  · intro otherClosed otherArguments otherWorld otherMode
      otherVerbose otherBytes otherReading hOther source
      otherSource hText hOtherText
    exact ⟨_, _, run_of_scans_named hScans hText name,
      run_of_scans_named hOther hOtherText name,
      dumpLines_eq_iff⟩

end MathScan.CommandLine

------------------------------------------------------------
-- Legible Tokens
------------------------------------------------------------

namespace MathScan

/-
  What a token shows of itself:

  Another token has the same text exactly if the two are equal
  and are not the two zeros, and the same record if they also
  have the same location, or none. The text is printable: no
  tab and nothing that breaks a line is in it.
-/
structure Token.Legible
    (t : Token) : Prop where
  text_eq_iff :
    ∀ u : Token, t.text = u.text ↔
      t.same u = true ∧ ¬ t.value.OppositeZeros u.value
  record_eq_iff :
    ∀ u : Token, t.record = u.record ↔
      t.same u = true ∧ ¬ t.value.OppositeZeros u.value ∧
        t.location = u.location
  printable_text : Text.Printable t.text.toList
  lineBreak_notMem :
    ∀ c ∈ '\t' :: Text.lineBreaks, c ∉ t.text.toList

/-
  Every token but NaN is legible, and so is every run that
  prints tokens.
-/
theorem tokens_legible :
    (∀ t : Token, t.value ≠ .number .nan → t.Legible) ∧
      ∀ (closed : Bool) (arguments : List String)
        (world : CommandLine.World closed) mode verbose name bytes
        reading,
        CommandLine.Scans arguments world mode verbose name bytes
            reading →
          CommandLine.LegibleRun arguments world mode name
            reading := by
  constructor
  · intro t hNumber
    refine
      { text_eq_iff := fun u => Token.text_eq_iff_same hNumber
        record_eq_iff := ?_
        printable_text := t.printable_text
        lineBreak_notMem := ?_ }
    · intro u
      rw [Token.record_eq_iff_text_eq,
        Token.text_eq_iff_same hNumber, and_assoc]
    · intro c hMem
      apply t.printable_text.notMem
      rcases List.mem_cons.mp hMem with rfl | hBreak
      · decide
      · exact Text.isPrintable_of_mem_lineBreaks hBreak
  · intro closed arguments world mode verbose name bytes reading
      hScans
    exact CommandLine.legibleRun_of_scans hScans

/-
  A token whose lexeme looks like the text of another one, and
  a run that prints two tokens of a file before an error.
-/
theorem tokens_legible_imitation :
    let t : Token :=
      ⟨.name, "x' -> \"y\")", .number (.finite true .zero), none⟩
    let arguments := ["--numbers", "greedy", "open.ml"]
    let bytes := Text.Utf8.encode "a 12;\r\n\"b".toList
    let world : CommandLine.World :=
      { lookup := fun _ => none
        opener := fun _ => .ok bytes
        input := [] }
    (t.value ≠ .number .nan ∧ t.Legible) ∧
      CommandLine.Scans arguments world .greedy false "open.ml"
          bytes (CommandLine.readWith decodeText bytes) ∧
        CommandLine.LegibleRun arguments world .greedy "open.ml"
          (CommandLine.readWith decodeText bytes) := by
  intro t arguments bytes world
  have hNumber : t.value ≠ .number .nan := by
    decide
  have hDemand :
      CommandLine.Demand.ofArguments arguments =
        .ok (.scan ⟨some "open.ml", some .greedy, false⟩) := by
    rfl
  have hSetting :
      NumberMode.ofEnvironment world.lookup =
        .ok .singleDigit := by
    rfl
  have hScans :
      CommandLine.Scans arguments world .greedy false "open.ml"
        bytes (CommandLine.readWith decodeText bytes) :=
    .file hDemand hSetting rfl (by decide) (by decide) rfl
  exact ⟨⟨hNumber, tokens_legible.1 t hNumber⟩, hScans,
    tokens_legible.2 false arguments world .greedy false "open.ml"
      bytes _ hScans⟩

end MathScan
