import MathScan.Proofs.LetterCase
import MathScan.Proofs.TokenLines

/-
  The text of a diagnostic. It is made of lines: the header,
  the place, the help text if there is one, and the list of
  suggestions if there are some, with a line before them. If
  no part has a line feed of its own, the text tells all of
  these, whatever the parts may look like. Of an error the
  same is told, under one severity.

  Key definitions include:
    * `Diagnostic.Plain`
    * `Diagnostic.lines`
    * `Diagnostic.SameReport`
    * `Diagnostic.Legible`
    * `ScanError.Reports`

  The key statements are:
    * `Diagnostic.toList_text`
    * `Diagnostic.sections_inj`
    * `Diagnostic.text_eq_iff`
    * `diagnostics_legible`
-/

------------------------------------------------------------
-- Lines With Line Feeds
------------------------------------------------------------

namespace MathScan.Text

variable {all : List (List Char)}

/- Lines that are ended by line feeds end in one. -/
theorem getLast?_flatMap_feed
    (hSome : all ≠ []) :
    (all.flatMap (· ++ ['\n'])).getLast? = some '\n' := by
  rcases List.eq_nil_or_concat' all with rfl | ⟨front, line, rfl⟩
  · exact absurd rfl hSome
  · rw [List.flatMap_append, List.flatMap_singleton,
      ← List.append_assoc, List.getLast?_concat]

theorem count_flatMap_feed
    (hFeed : ∀ line ∈ all, '\n' ∉ line) :
    (all.flatMap (· ++ ['\n'])).count '\n' = all.length := by
  induction all with
  | nil => rfl
  | cons line more ih =>
      have hNone : line.count '\n' = 0 :=
        List.count_eq_zero.mpr (hFeed line (by simp))
      rw [List.flatMap_cons, List.count_append,
        List.count_append, hNone,
        ih fun other hMem => hFeed other (by simp [hMem]),
        List.length_cons, List.count_singleton_self]
      omega

theorem newline_notMem_append
    {s t : String}
    (hFirst : '\n' ∉ s.toList)
    (hSecond : '\n' ∉ t.toList) :
    '\n' ∉ (s ++ t).toList := by
  rw [String.toList_append, List.mem_append, not_or]
  exact ⟨hFirst, hSecond⟩

end MathScan.Text

namespace MathScan

theorem Location.newline_notMem_toString
    (n : Int) :
    '\n' ∉ (toString n).toList := by
  intro hMem
  have hDigit := isDigit_of_mem_toString hMem
  revert hDigit
  decide

end MathScan

------------------------------------------------------------
-- Lines of a Diagnostic
------------------------------------------------------------

namespace MathScan

namespace Diagnostic

/-
  Whether no part of a diagnostic that is written in its text
  has a line feed.
-/
structure Plain
    (d : Diagnostic) : Prop where
  severity : '\n' ∉ d.severity.toList
  code : '\n' ∉ (d.code.getD "").toList
  message : '\n' ∉ d.message.toList
  filename : '\n' ∉ d.location.filename.toList
  help : '\n' ∉ (d.help.getD "").toList
  suggestions :
    ∀ s ∈ d.suggestions.getD [], '\n' ∉ s.toList

/- The line of a help text, if it is not empty. -/
def helpLines
    (help : String) : List (List Char) :=
  if help = "" then [] else ["  help: ".toList ++ help.toList]

/- The lines of suggestions, if there are some. -/
def adviceLines
    (suggestions : List String) : List (List Char) :=
  if suggestions = [] then
    []
  else
    "  suggestions:".toList ::
      suggestions.map (fun s => "    - ".toList ++ s.toList)

/- The lines of a diagnostic, without their line feeds. -/
def lines
    (d : Diagnostic) : List (List Char) :=
  d.header.toList ::
    ("  --> ".toList ++ d.location.text.toList) ::
      (helpLines (d.help.getD "") ++
        adviceLines (d.suggestions.getD []))

theorem toList_text
    (d : Diagnostic) :
    d.text.toList = d.lines.flatMap (· ++ ['\n']) := by
  have hHelp :
      d.helpLine.toList =
        (helpLines (d.help.getD "")).flatMap (· ++ ['\n']) := by
    by_cases hNone : d.help.getD "" = ""
    · simp [helpLine, helpLines, hNone]
    · simp [helpLine, helpLines, hNone]
  have hAdvice :
      d.suggestionLines.toList =
        (adviceLines (d.suggestions.getD [])).flatMap
          (· ++ ['\n']) := by
    by_cases hNone : d.suggestions.getD [] = []
    · simp [suggestionLines, adviceLines, hNone]
    · simp [suggestionLines, adviceLines, hNone,
        List.flatMap_map]
  have hFeed : "\n".toList = ['\n'] := rfl
  simp only [text, lines, String.toList_append, hHelp, hAdvice,
    hFeed, List.flatMap_cons, List.flatMap_append,
    List.append_assoc]

variable {d e : Diagnostic}

/- No line of a plain diagnostic has a line feed of its own. -/
theorem newline_notMem_lines
    (hPlain : d.Plain) :
    ∀ line ∈ d.lines, '\n' ∉ line := by
  have hHeader : '\n' ∉ d.header.toList := by
    have hSeverity := hPlain.severity
    rw [← Text.newline_mem_uppercase_iff] at hSeverity
    have hCode := hPlain.code
    have hMessage := hPlain.message
    unfold header
    generalize d.code.getD "" = code at hCode ⊢
    by_cases hNone : code = ""
    · simp [hNone, hSeverity, hMessage]
    · simp [hNone, hSeverity, hCode, hMessage]
  have hPlace : '\n' ∉ d.location.text.toList := by
    have hInteger := Location.newline_notMem_toString
    simp only [Location.text, String.toList_append,
      List.mem_append, not_or]
    exact ⟨⟨⟨⟨hPlain.filename, by decide⟩, hInteger _⟩,
      by decide⟩, hInteger _⟩
  have hHelp :
      ∀ line ∈ helpLines (d.help.getD ""), '\n' ∉ line := by
    have hOwn := hPlain.help
    generalize d.help.getD "" = help at hOwn ⊢
    by_cases hNone : help = ""
    · simp [helpLines, hNone]
    · simp [helpLines, hNone, hOwn]
  have hAdvice :
      ∀ line ∈ adviceLines (d.suggestions.getD []),
        '\n' ∉ line := by
    have hOwn := hPlain.suggestions
    generalize d.suggestions.getD [] = suggestions at hOwn ⊢
    by_cases hNone : suggestions = []
    · simp [adviceLines, hNone]
    · simpa [adviceLines, hNone] using hOwn
  intro line hMem
  simp only [lines, List.mem_cons, List.mem_append] at hMem
  rcases hMem with hFirst | hSecond | hIn | hIn
  · rw [hFirst]
    exact hHeader
  · rw [hSecond]
    exact List.not_mem_append (by decide) hPlace
  · exact hHelp line hIn
  · exact hAdvice line hIn

end Diagnostic

end MathScan

------------------------------------------------------------
-- Equal Texts
------------------------------------------------------------

namespace MathScan

namespace Diagnostic

def lineCount
    (d : Diagnostic) : Nat :=
  2 + (if d.help.getD "" = "" then 0 else 1) +
    if d.suggestions.getD [] = [] then
      0
    else
      1 + (d.suggestions.getD []).length

theorem length_lines
    (d : Diagnostic) :
    d.lines.length = d.lineCount := by
  unfold lines lineCount helpLines adviceLines
  split
  · split
    · rfl
    · simp
      omega
  · split
    · rfl
    · simp
      omega

/- The lines of suggestions tell them. -/
theorem adviceLines_injective :
    Function.Injective adviceLines := by
  intro own other hLines
  unfold adviceLines at hLines
  split at hLines
  · rename_i hNone
    split at hLines
    · rename_i hOther
      rw [hNone, hOther]
    · cases hLines
  · split at hLines
    · cases hLines
    · have hMap := (List.cons.inj hLines).2
      refine List.map_injective_iff.mpr ?_ hMap
      intro s r hLine
      exact String.toList_injective
        (List.append_cancel_left hLine)

/- The line of a help text is none of the lines of suggestions. -/
theorem adviceLines_ne_cons
    (suggestions : List String)
    (help : List Char)
    (more : List (List Char)) :
    adviceLines suggestions ≠
      ("  help: ".toList ++ help) :: more := by
  intro hLines
  unfold adviceLines at hLines
  split at hLines
  · cases hLines
  · have hFirst := congrArg (·[2]?) (List.cons.inj hLines).1
    simp at hFirst

/-
  What stands behind the place tells the help text and the
  suggestions, whatever they look like.
-/
theorem sections_inj
    {help otherHelp : String}
    {suggestions others : List String}
    (hLines :
      helpLines help ++ adviceLines suggestions =
        helpLines otherHelp ++ adviceLines others) :
    help = otherHelp ∧ suggestions = others := by
  unfold helpLines at hLines
  split at hLines
  · rename_i hNone
    split at hLines
    · rename_i hOther
      exact ⟨hNone.trans hOther.symm,
        adviceLines_injective hLines⟩
    · exact absurd hLines (adviceLines_ne_cons _ _ _)
  · split at hLines
    · exact absurd hLines.symm (adviceLines_ne_cons _ _ _)
    · have hParts := List.cons.inj hLines
      have hHelp := List.append_cancel_left hParts.1
      exact ⟨String.toList_injective hHelp,
        adviceLines_injective hParts.2⟩

/-
  Whether two diagnostics report the same: an empty help text
  is as good as none, and so is an empty list of suggestions.
  The offset of the place is not reported.
-/
structure SameReport
    (d e : Diagnostic) : Prop where
  header_eq : d.header = e.header
  filename_eq : d.location.filename = e.location.filename
  line_eq : d.location.line = e.location.line
  column_eq : d.location.column = e.location.column
  help_eq : d.help.getD "" = e.help.getD ""
  suggestions_eq :
    d.suggestions.getD [] = e.suggestions.getD []

variable {d e : Diagnostic}

/- Diagnostics with the same lines report the same. -/
theorem sameReport_of_lines
    (hLines : d.lines = e.lines) :
    d.SameReport e := by
  rcases List.cons.inj hLines with ⟨hHeader, hBehind⟩
  rcases List.cons.inj hBehind with ⟨hPlace, hSections⟩
  have hText : d.location.text = e.location.text :=
    String.toList_injective (List.append_cancel_left hPlace)
  rcases Location.text_inj hText with ⟨hName, hLine, hColumn⟩
  rcases sections_inj hSections with ⟨hHelp, hSuggestions⟩
  exact
    { header_eq := String.toList_injective hHeader
      filename_eq := hName
      line_eq := hLine
      column_eq := hColumn
      help_eq := hHelp
      suggestions_eq := hSuggestions }

theorem SameReport.lines_eq
    (hSame : d.SameReport e) :
    d.lines = e.lines := by
  have hPlace : d.location.text = e.location.text := by
    rw [Location.text, Location.text, hSame.filename_eq,
      hSame.line_eq, hSame.column_eq]
  rw [lines, lines, hSame.header_eq, hPlace, hSame.help_eq,
    hSame.suggestions_eq]

/- Plain diagnostics have one text just if they report the same. -/
theorem text_eq_iff
    (hPlain : d.Plain)
    (hOther : e.Plain) :
    d.text = e.text ↔ d.SameReport e := by
  rw [← String.toList_inj, toList_text, toList_text]
  constructor
  · intro hChars
    have hLines := congrArg Text.lines hChars
    rw [Text.lines_flatMap (newline_notMem_lines hPlain),
      Text.lines_flatMap (newline_notMem_lines hOther)] at hLines
    exact sameReport_of_lines (List.append_cancel_right hLines)
  · intro hSame
    rw [hSame.lines_eq]

end Diagnostic

end MathScan

------------------------------------------------------------
-- Legible Diagnostics
------------------------------------------------------------

namespace MathScan

/-
  What the text of a diagnostic tells:

  It ends in a line feed and has as many lines as the
  diagnostic has parts to show. Another plain diagnostic has
  the same text just if it reports the same.
-/
structure Diagnostic.Legible
    (d : Diagnostic) : Prop where
  getLast?_text : d.text.toList.getLast? = some '\n'
  count_text : d.text.toList.count '\n' = d.lineCount
  text_eq_iff :
    ∀ e : Diagnostic, e.Plain →
      (d.text = e.text ↔ d.SameReport e)

theorem Diagnostic.legible_of_plain
    {d : Diagnostic}
    (hPlain : d.Plain) :
    d.Legible := by
  have hFeed := newline_notMem_lines hPlain
  refine
    { getLast?_text := ?_
      count_text := ?_
      text_eq_iff := fun e hOther => text_eq_iff hPlain hOther }
  · rw [toList_text]
    exact Text.getLast?_flatMap_feed (List.cons_ne_nil _ _)
  · rw [toList_text, Text.count_flatMap_feed hFeed, length_lines]

/-
  What is reported on an error:

  The text of the error is that of a diagnostic with the
  location, the code and the severity of an error, which the
  header shows in capitals. An error that comes with a
  message, a help text and suggestions of its own keeps them.
  All other errors are plain if their source has a plain name.
-/
structure ScanError.Reports
    (e : ScanError) : Prop where
  text_eq :
    ∃ message help suggestions,
      e.diagnostic =
          { message := message
            location := e.location
            severity := "error"
            code := e.code
            help := help
            suggestions := suggestions } ∧
        e.text = e.diagnostic.text ∧
        e.diagnostic.header =
          "ERROR" ++
            (if e.code.getD "" = "" then
              ""
            else
              "[" ++ e.code.getD "" ++ "]") ++ ": " ++ message
  of_reported :
    ∀ message place code help suggestions,
      e = .reported message place code help suggestions →
        e.diagnostic =
          { message := message
            location := place
            severity := "error"
            code := code
            help := help
            suggestions := suggestions }
  plain :
    (∀ message place code help suggestions,
        e ≠ .reported message place code help suggestions) →
      '\n' ∉ e.location.filename.toList →
        e.diagnostic.Plain

/- The errors of a scanner are plain but for the name. -/
theorem ScanError.plain_diagnostic
    {e : ScanError}
    (hOwn :
      ∀ message place code help suggestions,
        e ≠ .reported message place code help suggestions)
    (hName : '\n' ∉ e.location.filename.toList) :
    e.diagnostic.Plain := by
  have hSeverity : '\n' ∉ "error".toList := by decide
  have hNone : ∀ s ∈ ([] : List String), '\n' ∉ s.toList :=
    List.forall_mem_nil _
  cases e with
  | malformedString found place =>
      have hFound : '\n' ∉ (Text.quoted found).toList :=
        (Text.printable_quoted found).newline_notMem
      exact
        { severity := hSeverity
          code := (by decide : '\n' ∉ "L001".toList)
          message :=
            (by decide :
              '\n' ∉ "Strings must start with opening quotes".toList)
          filename := hName
          help :=
            Text.newline_notMem_append
              (Text.newline_notMem_append (by decide) hFound)
              (by decide)
          suggestions := hNone }
  | unterminatedString place =>
      have hAdvice :
          ∀ s ∈
            ["Add a closing \" quote",
              "Strings cannot contain quotes, " ++
                "there are no escape sequences"],
            '\n' ∉ s.toList := by
        decide
      exact
        { severity := hSeverity
          code := (by decide : '\n' ∉ "L002".toList)
          message :=
            (by decide : '\n' ∉ "Unterminated string literal".toList)
          filename := hName
          help :=
            (by decide :
              '\n' ∉
                ("String literals must be closed " ++
                  "with a matching \" quote.").toList)
          suggestions := hAdvice }
  | readPastEnd offset length place =>
      have hOffset := Location.newline_notMem_toString offset
      have hLength := Location.newline_notMem_toString length
      exact
        { severity := hSeverity
          code := (by decide : '\n' ∉ "L003".toList)
          message :=
            Text.newline_notMem_append
              (Text.newline_notMem_append
                (Text.newline_notMem_append
                  (Text.newline_notMem_append (by decide) hOffset)
                  (by decide))
                hLength)
              (by decide)
          filename := hName
          help :=
            Text.newline_notMem_append (by decide) (by decide)
          suggestions := hNone }
  | reported message place code help suggestions =>
      exact absurd rfl
        (hOwn message place code help suggestions)

theorem ScanError.reports
    (e : ScanError) :
    e.Reports := by
  have hCapitals :
      String.ofList (Text.uppercase "error".toList) = "ERROR" := by
    decide
  refine
    { text_eq := ?_
      of_reported := ?_
      plain := ScanError.plain_diagnostic }
  · refine ⟨e.diagnostic.message, e.diagnostic.help,
      e.diagnostic.suggestions, ?_, rfl, ?_⟩
    · cases e <;> rfl
    · have hSeverity : e.diagnostic.severity = "error" := by
        cases e <;> rfl
      rw [Diagnostic.header, hSeverity, hCapitals]
      rfl
  · rintro message place code help suggestions rfl
    rfl

/-
  Every plain diagnostic is legible, and every error is
  reported as a diagnostic.
-/
theorem diagnostics_legible :
    (∀ d : Diagnostic, d.Plain → d.Legible) ∧
      ∀ e : ScanError, e.Reports := by
  constructor
  · intro d hPlain
    exact Diagnostic.legible_of_plain hPlain
  · intro e
    exact e.reports

/-
  A warning without a code, all parts of which look like other
  ones.
-/
theorem diagnostics_legible_imitation :
    let d : Diagnostic :=
      { message := "  --> a:1:2"
        location := ⟨"b:3:4", 5, 6, 7⟩
        severity := "warning"
        code := some ""
        help := some "suggestions:"
        suggestions := some ["", "- c", "help: d"] }
    d.Plain ∧ d.Legible := by
  intro d
  have hPlain : d.Plain :=
    { severity := by decide
      code := by decide
      message := by decide
      filename := by decide
      help := by decide
      suggestions := by decide }
  exact ⟨hPlain, diagnostics_legible.1 d hPlain⟩

end MathScan
