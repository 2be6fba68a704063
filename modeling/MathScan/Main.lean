import MathScan.CommandLine.Run

/-
  The program. It reads what its arguments name, runs the
  command line on it, and prints the outcome.
-/

namespace MathScan.CommandLine

/- The number of an error, which some systems give negated. -/
def plainNumber
    (code : UInt32) : Nat :=
  if code < 0x80000000 then code.toNat else (-code).toNat

/- Why the system does not open a file. -/
def openFault : IO.Error → OpenFault
  | .noFileOrDirectory _ code reason
  | .inappropriateType _ code reason
  | .invalidArgument _ code reason
  | .permissionDenied _ code reason
  | .resourceExhausted _ code reason
  | .noSuchThing _ code reason
  | .otherError code reason =>
    .ofNumber (plainNumber code) reason
  | e => .other 5 (toString e)

/- The bytes of a file, or why it is not opened. -/
def openFile
    (path : String) : IO (Except OpenFault (List UInt8)) := do
  match ← (IO.FS.readBinFile path).toBaseIO with
  | .error e => return .error (openFault e)
  | .ok bytes => return .ok bytes.toList

/-
  The bytes of the standard input and what is read of them. The
  line ends of a standard input are kept.
-/
def readInput : IO (List UInt8 × InputReading false) := do
  match ← (← IO.getStdin).readBinToEnd.toBaseIO with
  | .error e =>
    return ([], .error (.notRead (openFault e).wording))
  | .ok bytes =>
    return (bytes.toList,
      readWith Text.Utf8.decode bytes.toList)

def namedFile
    (arguments : List String) : Option String :=
  match Demand.ofArguments arguments with
  | .ok (.scan arguments) => chosenFile arguments
  | _ => none

end MathScan.CommandLine

open MathScan CommandLine

def main
    (arguments : List String) : IO UInt32 := do
  let setting ← IO.getEnv NumberMode.settingName
  let file := namedFile arguments
  let opened ←
    match file with
    | some path => openFile path
    | none => pure (.ok [])
  let (input, reading) ←
    if file.isSome then pure ([], .ok []) else readInput
  let world : World :=
    { lookup := fun name =>
        if name = NumberMode.settingName then setting else none
      opener := fun _ => opened
      input := input
      read := fun _ => reading }
  match run arguments world with
  | .ok outcome =>
    IO.print outcome.output
    IO.eprint outcome.errors
    return outcome.status.toUInt32
  | .error crash =>
    IO.eprintln crash.message
    return 1
