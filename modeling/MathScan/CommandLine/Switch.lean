/-
  The switches of the command line, by their spellings.

  Key definitions include:
    * `Flag`
    * `Switch`
    * `Switch.spellings`
    * `Switch.ofSpelling?`
    * `Switch.title`
-/

namespace MathScan.CommandLine

/- The switches that take no value. -/
inductive Flag where
  /- The help text. -/
  | help
  /- A log of all tokens. -/
  | verbose
  /- The version. -/
  | version
deriving DecidableEq

/- What can be asked for besides a file. -/
inductive Switch where
  /- A switch that takes no value. -/
  | flag (flag : Flag)
  /- The mode that numbers are scanned in, given as a value. -/
  | numbers
deriving DecidableEq

namespace Switch

def spellings : List (String × Switch) :=
  [("-h", flag .help), ("--help", flag .help),
    ("--numbers", numbers), ("-v", flag .verbose),
    ("--verbose", flag .verbose), ("--version", flag .version)]

def ofSpelling?
    (s : String) : Option Switch :=
  spellings.lookup s

/- How a switch is called in error messages. -/
def title
    (switch : Switch) : String :=
  "/".intercalate
    ((spellings.filter (fun entry => entry.2 = switch)).map
      Prod.fst)

end Switch

/- The flag that a letter stands for behind one dash. -/
def Flag.ofLetter?
    (letter : Char) : Option Flag :=
  match Switch.ofSpelling? (String.ofList ['-', letter]) with
  | some (.flag flag) => some flag
  | _ => none

end MathScan.CommandLine
