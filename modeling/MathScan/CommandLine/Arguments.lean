import MathScan.CommandLine.Item
import MathScan.NumberMode

/-
  What the arguments ask for. They take effect from left to
  right, and arguments that are left over are reported after
  all others.

  Key definitions include:
    * `Arguments`
    * `Demand`
    * `Demand.ofItems`
    * `Demand.ofArguments`
-/

namespace MathScan.CommandLine

------------------------------------------------------------
-- Demands
------------------------------------------------------------

/- The file, the mode and the log that are asked for. -/
structure Arguments where
  file : Option String
  numbers : Option NumberMode
  verbose : Bool
deriving DecidableEq

/- What the arguments ask for. -/
inductive Demand where
  | help
  | version
  | scan (arguments : Arguments)
deriving DecidableEq

/- What is known after some arguments. -/
structure Progress where
  arguments : Arguments
  leftOver : List String
deriving DecidableEq

namespace Progress

def start : Progress :=
  ⟨⟨none, none, false⟩, []⟩

/- Puts an argument to those that are left over. -/
def leave
    (p : Progress)
    (text : String) : Progress :=
  { p with leftOver := p.leftOver ++ [text] }

def takeFile
    (p : Progress)
    (text : String) : Progress :=
  { p with arguments := { p.arguments with file := some text } }

def setVerbose
    (p : Progress) : Progress :=
  { p with arguments := { p.arguments with verbose := true } }

/- Asks for a mode, or takes the question back. -/
def setNumbers
    (p : Progress)
    (mode : Option NumberMode) : Progress :=
  { p with arguments := { p.arguments with numbers := mode } }

end Progress

------------------------------------------------------------
-- Values
------------------------------------------------------------

/-
  The mode that a value names. Two dashes as a value take back
  what was asked for before.
-/
def chooseMode
    (value : String) :
    Except ArgumentError (Option NumberMode) :=
  if value = "--" then
    .ok none
  else
    match NumberMode.ofSpelling? value with
    | some mode => .ok (some mode)
    | none =>
      .error
        (.invalidChoice .numbers value
          (NumberMode.all.map NumberMode.spelling))

/-
  A value behind a flag of one letter: the letters of further
  flags.
-/
def readLetters
    (flag : Flag) :
    List Char → Except ArgumentError (List Flag)
  | [] => .ok [flag]
  | c :: more =>
    match Flag.ofLetter? c with
    | some next => (readLetters next more).map (flag :: ·)
    | none =>
      .error (.ignoredValue flag (String.ofList (c :: more)))

/-
  The flags that an argument stands for, by the first of them
  and the value that is attached to it.
-/
def readFlags
    (flag : Flag)
    (short : Bool) :
    Option String → Except ArgumentError (List Flag)
  | none => .ok [flag]
  | some value =>
    if short = true ∧ value ≠ "" then
      readLetters flag value.toList
    else
      .error (.ignoredValue flag value)

/-
  The effect of flags: the first that asks for a text of its
  own ends the reading.
-/
def applyFlags
    (p : Progress) : List Flag → Progress ⊕ Demand
  | [] => .inl p
  | .help :: _ => .inr .help
  | .version :: _ => .inr .version
  | .verbose :: more => applyFlags p.setVerbose more

------------------------------------------------------------
-- All arguments
------------------------------------------------------------

namespace Demand

/-
  What all items ask for, with what is known before them. The
  first operand is the file. The marker vanishes if no file
  is known before it, or if the file stands right before it.
-/
def ofItems
    (p : Progress) : List Item → Except ArgumentError Demand
  | [] =>
    if p.leftOver = [] then
      .ok (.scan p.arguments)
    else
      .error (.unrecognized p.leftOver)
  | .operand text :: .marker :: rest =>
    if p.arguments.file.isNone then
      ofItems (p.takeFile text) rest
    else
      ofItems ((p.leave text).leave "--") rest
  | .operand text :: rest =>
    if p.arguments.file.isNone then
      ofItems (p.takeFile text) rest
    else
      ofItems (p.leave text) rest
  | .marker :: rest =>
    if p.arguments.file.isNone then
      ofItems p rest
    else
      ofItems (p.leave "--") rest
  | .unknown text :: rest => ofItems (p.leave text) rest
  | .switch .numbers _ (some value) :: rest =>
    match chooseMode value with
    | .error e => .error e
    | .ok mode => ofItems (p.setNumbers mode) rest
  | .switch .numbers _ none :: .operand value :: rest =>
    match chooseMode value with
    | .error e => .error e
    | .ok mode => ofItems (p.setNumbers mode) rest
  | .switch .numbers _ none :: _ =>
    .error (.expectedValue .numbers)
  | .switch (.flag flag) short value :: rest =>
    match readFlags flag short value with
    | .error e => .error e
    | .ok flags =>
      match applyFlags p flags with
      | .inl p => ofItems p rest
      | .inr demand => .ok demand

def ofArguments
    (arguments : List String) : Except ArgumentError Demand :=
  (Item.ofArguments arguments).bind (ofItems .start)

end Demand

end MathScan.CommandLine
