import MathScan.CommandLine.Help
import MathScan.CommandLine.Source
import MathScan.Scanner.Drain

/-
  Running the command line: the tokens of a file, or of the
  standard input, on one line each.

  Key definitions include:
    * `Outcome`
    * `report`
    * `run`
-/

namespace MathScan.CommandLine

------------------------------------------------------------
-- Outcomes
------------------------------------------------------------

/- What a run gives: its exit status and what it prints. -/
structure Outcome where
  status : Nat
  output : String
  errors : String
deriving DecidableEq

------------------------------------------------------------
-- Lines
------------------------------------------------------------

def placeText
    (t : Token) : String :=
  t.location.elim "None" Location.text

def tokenLine
    (t : Token) : String :=
  placeText t ++ "\t" ++ t.text ++ "\n"

def logLine
    (message : String) : String :=
  "DEBUG mathlang.lexer.scanner: " ++ message ++ "\n"

def tokenLog
    (t : Token) : String :=
  logLine ("Scanned " ++ t.text ++ " at " ++ placeText t)

def endLog
    (s : Scanner) : String :=
  logLine
    ("End of input in " ++ s.filename ++ " at offset " ++
      toString s.position)

/- The log of a drain: its tokens, and its end if there is one. -/
def drainLog
    (all : Drain) : String :=
  String.join (all.tokens.map tokenLog) ++
    (if all.failure.isNone then endLog all.scanner else "")

/- What a drain prints, and where a failure is reported. -/
def report
    (verbose : Bool)
    (all : Drain) : Outcome :=
  { status := if all.failure.isNone then 0 else 1
    output := String.join (all.tokens.map tokenLine)
    errors :=
      (if verbose then drainLog all else "") ++
        all.failure.elim "" ScanError.text }

------------------------------------------------------------
-- Runs
------------------------------------------------------------

variable {closed : Bool}

/- What a run says that cannot read its source. -/
def unreadText
    (arguments : Arguments)
    (reason : String) : String :=
  "error: cannot read " ++ arguments.file.getD "None" ++ ": " ++
    reason ++ "\n"

/-
  Reads the source and goes on with its name and its text,
  unless there is none.
-/
def withSource
    (world : World closed)
    (arguments : Arguments)
    (continuation : String → List Char → Outcome) :
    Except (Crash closed) Outcome :=
  match readSource world arguments with
  | .error (.crash crash) => .error crash
  | .error (.unread reason) =>
    .ok ⟨1, "", unreadText arguments reason⟩
  | .ok (name, source) => .ok (continuation name source)

def scan
    (world : World closed)
    (arguments : Arguments) : Except (Crash closed) Outcome :=
  match NumberMode.ofEnvironment world.lookup with
  | .error e =>
    .ok ⟨2, "", "error: " ++ e.message ++ "\n"⟩
  | .ok mode =>
    withSource world arguments fun name source =>
      report arguments.verbose
        (Scanner.ofChars source name
          (arguments.numbers.getD mode)).drain

def refused
    (e : ArgumentError) : Outcome :=
  ⟨2, "",
    usage ++ programName ++ ": error: " ++ e.message ++ "\n"⟩

def run
    (arguments : List String)
    (world : World closed) : Except (Crash closed) Outcome :=
  match Demand.ofArguments arguments with
  | .error e => .ok (refused e)
  | .ok .help => .ok ⟨0, help, ""⟩
  | .ok .version =>
    .ok ⟨0, programName ++ " " ++ version ++ "\n", ""⟩
  | .ok (.scan arguments) => scan world arguments

end MathScan.CommandLine
