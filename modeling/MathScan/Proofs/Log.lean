import MathScan.Proofs.FailureOrder

/-
  The log of a run. A run that is asked for a log comes to the
  same status and prints the same output as one that is not.
  Its log has a record for each token in the output, in the
  same order, and a last one if the source has come to its
  end.

  Key definitions include:
    * `Demand.logged`
    * `Record`
    * `Traces`

  The key statements are:
    * `Demand.ofArguments_verbose`
    * `scans_verbose`
    * `run_verbose_traces`
-/

------------------------------------------------------------
-- Asking for a Log
------------------------------------------------------------

namespace MathScan.CommandLine

/- The same demand, with a log if it is for a scan. -/
def Demand.logged : Demand → Demand
  | .scan asked => .scan { asked with verbose := true }
  | demand => demand

/- Flags behind a question for a log do not take it back. -/
theorem applyFlags_setVerbose
    (p : Progress)
    (flags : List Flag) :
    applyFlags p.setVerbose flags =
      (applyFlags p flags).map Progress.setVerbose
        Demand.logged := by
  induction flags generalizing p with
  | nil => rfl
  | cons flag more ih =>
      cases flag with
      | help => rfl
      | version => rfl
      | verbose => exact ih p.setVerbose

/-
  Items behind a question for a log ask for the same as they
  do without it, and for the log.
-/
theorem Demand.ofItems_setVerbose
    (p : Progress)
    (items : List Item) :
    ofItems p.setVerbose items =
      (ofItems p items).map logged := by
  -- by the recursion of the reading, whose tests do not look at
  -- the question for a log
  fun_induction ofItems p items with
  | case1 p hNone =>
      rw [ofItems]
      exact if_pos hNone
  | case2 p hLeft =>
      rw [ofItems]
      exact if_neg hLeft
  | case3 p text rest hFirst ih =>
      rw [← ih, ofItems]
      exact if_pos hFirst
  | case4 p text rest hLater ih =>
      rw [← ih, ofItems]
      exact if_neg hLater
  | case5 p text rest hOther hFirst ih =>
      rw [← ih, ofItems]
      · exact if_pos hFirst
      · exact hOther
  | case6 p text rest hOther hLater ih =>
      rw [← ih, ofItems]
      · exact if_neg hLater
      · exact hOther
  | case7 p rest hFirst ih =>
      rw [← ih, ofItems]
      exact if_pos hFirst
  | case8 p rest hLater ih =>
      rw [← ih, ofItems]
      exact if_neg hLater
  | case9 p text rest ih =>
      rw [← ih, ofItems]
      rfl
  | case10 p short value rest e hChoose =>
      rw [ofItems, hChoose]
      rfl
  | case11 p short value rest mode hChoose ih =>
      rw [← ih, ofItems, hChoose]
      rfl
  | case12 p short value rest e hChoose =>
      rw [ofItems, hChoose]
      rfl
  | case13 p short value rest mode hChoose ih =>
      rw [← ih, ofItems, hChoose]
      rfl
  | case14 p short rest hOther =>
      rw [ofItems]
      · rfl
      · exact hOther
  | case15 p flag short value rest e hRead =>
      rw [ofItems, hRead]
      rfl
  | case16 p flag short value rest flags hRead q hFlags ih =>
      rw [← ih, ofItems, hRead]
      simp only [applyFlags_setVerbose, hFlags, Sum.map_inl]
  | case17 p flag short value rest flags hRead demand hFlags =>
      rw [ofItems, hRead]
      simp only [applyFlags_setVerbose, hFlags, Sum.map_inr]
      rfl

/- What arguments ask for behind the switch for the log. -/
theorem Demand.ofArguments_verbose
    (arguments : List String) :
    ofArguments ("-v" :: arguments) =
      (ofArguments arguments).map logged := by
  have hSwitch :
      Item.ofArgument "-v" =
        .ok (.switch (.flag .verbose) true none) := by
    rfl
  rw [ofArguments, Item.ofArguments, if_neg (by decide),
    hSwitch, ofArguments]
  cases Item.ofArguments arguments with
  | error e => rfl
  | ok items => exact ofItems_setVerbose .start items

variable {closed : Bool}
variable {arguments : List String} {world : World closed}
variable {mode : NumberMode} {verbose : Bool}
variable {name : String} {bytes : List UInt8}
variable {reading : InputReading closed}

/-
  The switch for the log changes nothing about what a run
  reads and scans, in which mode, and under which name.
-/
theorem scans_verbose
    (hScans :
      Scans arguments world mode verbose name bytes reading) :
    Scans ("-v" :: arguments) world mode true name bytes
      reading := by
  have hLogged {asked : Arguments}
      (hDemand :
        Demand.ofArguments arguments = .ok (.scan asked)) :
      Demand.ofArguments ("-v" :: arguments) =
        .ok (.scan { asked with verbose := true }) := by
    rw [Demand.ofArguments_verbose, hDemand]
    rfl
  cases hScans with
  | file hDemand hSetting hFile hName hPath hOpen =>
      exact .file (hLogged hDemand) hSetting hFile hName hPath
        hOpen
  | input hDemand hSetting hFile =>
      exact .input (hLogged hDemand) hSetting hFile

end MathScan.CommandLine

------------------------------------------------------------
-- Records
------------------------------------------------------------

namespace MathScan.CommandLine

/- What is put down in the log of a scan. -/
inductive Record where
  /- A token has been scanned. -/
  | scanned (t : Token)
  /- The source has come to its end. -/
  | ended (name : String) (offset : Nat)

namespace Record

def message : Record → String
  | scanned t => "Scanned " ++ t.text ++ " at " ++ placeText t
  | ended name offset =>
    "End of input in " ++ name ++ " at offset " ++
      toString offset

def line
    (record : Record) : String :=
  "DEBUG mathlang.lexer.scanner: " ++ record.message ++ "\n"

end Record

variable {name : String} {source : List Char}
variable {mode : NumberMode} {all : Drain}

theorem map_tokenLog
    (ts : List Token) :
    ts.map tokenLog =
      (ts.map Record.scanned).map Record.line := by
  rw [List.map_map]
  rfl

/-
  The end of a source is logged by its record, behind all of
  the characters.
-/
theorem endLog_drain
    (source : List Char)
    (name : String)
    (mode : NumberMode) :
    endLog (Scanner.ofChars source name mode).drain.scanner =
      (Record.ended name source.length).line := by
  have hOffset :
      ((Scanner.ofChars source name mode).advance
        source.length).position = source.length :=
    Nat.zero_add _
  have hEnd :
      (Scanner.ofChars source name mode).drain.scanner =
        (Scanner.ofChars source name mode).advance
          source.length :=
    Scanner.scanner_drain _
  rw [hEnd, endLog, hOffset]
  rfl

theorem drainLog_of_end
    (hEnd : all.failure = none) :
    drainLog all =
      String.join
          ((all.tokens.map Record.scanned).map Record.line) ++
        endLog all.scanner := by
  rw [drainLog, hEnd, map_tokenLog]
  rfl

theorem drainLog_of_failure
    {e : ScanError}
    (hFailure : all.failure = some e) :
    drainLog all =
      String.join
        ((all.tokens.map Record.scanned).map Record.line) := by
  rw [drainLog, hFailure, map_tokenLog]
  exact String.append_empty

end MathScan.CommandLine

------------------------------------------------------------
-- Two Runs
------------------------------------------------------------

namespace MathScan.CommandLine

/-
  What a log shows of the drain of a named source, by the
  outcomes of a run without it and of a run with it:

  They have the same status and the same output, which has one
  line for each token. The log has one record for each of the
  tokens, in their order, with the same text and the same
  place as the line. If the source has come to its end, there
  is one more record that says so, and nothing else; if not,
  the error is reported behind the records of the tokens, as
  it is without a log.
-/
structure Traces
    (name : String)
    (source : List Char)
    (all : Drain)
    (quiet logged : Outcome) : Prop where
  status_eq : logged.status = quiet.status
  output_eq : logged.output = quiet.output
  output_tokens :
    quiet.output = String.join (all.tokens.map tokenLine)
  of_token :
    ∀ t ∈ all.tokens,
      ∃ place, t.location = some place ∧
        place.filename = name ∧
        tokenLine t = place.text ++ "\t" ++ t.text ++ "\n" ∧
        (Record.scanned t).message =
          "Scanned " ++ t.text ++ " at " ++ place.text
  of_end :
    all.failure = none →
      quiet.status = 0 ∧ quiet.errors = "" ∧
        logged.errors =
          String.join
            ((all.tokens.map Record.scanned ++
              [Record.ended name source.length]).map
                Record.line)
  of_failure :
    ∀ e, all.failure = some e →
      e.code = some "L002" ∧
        quiet.status = 1 ∧ quiet.errors = e.text ∧
          logged.errors =
            String.join
                ((all.tokens.map Record.scanned).map
                  Record.line) ++
              e.text

/-
  The reports on a drain with a log and without one, from what
  the drain is known to come to.
-/
theorem report_traces
    {name : String}
    {source : List Char}
    {all : Drain}
    (hPlaces :
      ∀ t ∈ all.tokens,
        ∃ place, t.location = some place ∧
          place.filename = name)
    (hEndLog :
      endLog all.scanner =
        (Record.ended name source.length).line)
    (hCode : ∀ e, all.failure = some e → e.code = some "L002") :
    Traces name source all (report false all)
      (report true all) := by
  refine
    { status_eq := rfl
      output_eq := rfl
      output_tokens := rfl
      of_token := ?_
      of_end := ?_
      of_failure := ?_ }
  · intro t hMem
    rcases hPlaces t hMem with ⟨place, hPlace, hName⟩
    refine ⟨place, hPlace, hName, ?_, ?_⟩
    · simp only [tokenLine, placeText, hPlace,
        Option.elim_some]
    · have hMessage :
          (Record.scanned t).message =
            "Scanned " ++ t.text ++ " at " ++ placeText t := rfl
      rw [hMessage, placeText, hPlace, Option.elim_some]
  · intro hEnd
    have hLog := drainLog_of_end hEnd
    simp [report, hEnd, hLog, hEndLog]
  · intro e hFailure
    have hLog := drainLog_of_failure hFailure
    refine ⟨hCode e hFailure, ?_⟩
    simp [report, hFailure, hLog]

variable {closed : Bool}
variable {arguments : List String} {world : World closed}
variable {mode : NumberMode} {name : String}
variable {bytes : List UInt8} {reading : InputReading closed}
variable {source : List Char}

/-
  A run that scans a text and is not asked for a log, and the
  run that is asked for one in front of the same arguments:
  the log shows what is scanned, and changes nothing else.
-/
theorem run_verbose_traces
    (hScans :
      Scans arguments world mode false name bytes reading)
    (hText : reading = .ok source) :
    ∃ quiet logged,
      run arguments world = .ok quiet ∧
        run ("-v" :: arguments) world = .ok logged ∧
        Traces name source
          (Scanner.ofChars source name mode).drain quiet
          logged := by
  have hQuiet := run_of_scans hScans hText
  have hLogged := run_of_scans (scans_verbose hScans) hText
  refine ⟨_, _, hQuiet, hLogged, ?_⟩
  apply report_traces
  · intro t hMem
    rcases Scanner.location_of_mem_drain hMem with
      ⟨offset, hPlace⟩
    exact ⟨_, hPlace, rfl⟩
  · exact endLog_drain source name mode
  · intro e hFailure
    rcases Scanner.failure_drain hFailure with ⟨place, rfl⟩
    exact ScanError.code_unterminatedString place

/-
  A standard input with its line ends kept, whose first line is
  read whole, and whose second one has a string without an end.
-/
theorem run_verbose_traces_open_string :
    let arguments := ["", "--numbers=greedy"]
    let source := "x=42;\r\ny \"z".toList
    let world : World :=
      { lookup := fun _ => none
        opener := fun _ => .error .missing
        input := Text.Utf8.encode source
        read := readWith Text.Utf8.decode }
    Scans arguments world .greedy false inputName world.input
        world.reading ∧
      world.reading = .ok source ∧
      ∃ quiet logged,
        run arguments world = .ok quiet ∧
          run ("-v" :: arguments) world = .ok logged ∧
          Traces inputName source
            (Scanner.ofChars source inputName .greedy).drain
            quiet logged := by
  intro arguments source world
  have hDemand :
      Demand.ofArguments arguments =
        .ok (.scan ⟨some "", some .greedy, false⟩) := by
    rfl
  have hSetting :
      NumberMode.ofEnvironment world.lookup =
        .ok .singleDigit := by
    rfl
  have hScans :
      Scans arguments world .greedy false inputName world.input
        world.reading :=
    .input hDemand hSetting (.inr rfl)
  have hText : world.reading = .ok source :=
    readWith_eq_ok_iff.mpr (Text.Utf8.decode_eq_ok_iff.mpr rfl)
  exact ⟨hScans, hText, run_verbose_traces hScans hText⟩

end MathScan.CommandLine
