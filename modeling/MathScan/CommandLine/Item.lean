import MathScan.CommandLine.Switch
import MathScan.Text.DecimalDigit
import MathScan.Text.Quoted

/-
  Arguments one by one: whether each of them is a switch, and
  which, or an operand. This is decided for all arguments
  before any of them takes effect.

  Key definitions include:
    * `ArgumentError`
    * `ArgumentError.message`
    * `Item`
    * `Item.ofArgument`
    * `Item.ofArguments`
-/

namespace MathScan.CommandLine

------------------------------------------------------------
-- Errors
------------------------------------------------------------

/- Why arguments are refused. -/
inductive ArgumentError where
  /- A shortened switch could be any of several. -/
  | ambiguous (argument : String) (candidates : List String)
  /- A switch that needs a value has none. -/
  | expectedValue (switch : Switch)
  /- A value is none of those that a switch can have. -/
  | invalidChoice
      (switch : Switch) (value : String) (choices : List String)
  /- A switch that takes no value is given one. -/
  | ignoredValue (flag : Flag) (value : String)
  /- Some arguments are left over. -/
  | unrecognized (arguments : List String)
deriving DecidableEq

/- The wording of an error, behind the title of a switch. -/
def aboutSwitch
    (switch : Switch)
    (message : String) : String :=
  "argument " ++ switch.title ++ ": " ++ message

def ArgumentError.message : ArgumentError → String
  | ambiguous argument candidates =>
    "ambiguous option: " ++ argument ++ " could match " ++
      ", ".intercalate candidates
  | expectedValue switch =>
    aboutSwitch switch "expected one argument"
  | invalidChoice switch value choices =>
    aboutSwitch switch
      ("invalid choice: " ++ Text.quoted value ++
        " (choose from " ++
        ", ".intercalate (choices.map Text.quoted) ++ ")")
  | ignoredValue flag value =>
    aboutSwitch (.flag flag)
      ("ignored explicit argument " ++ Text.quoted value)
  | unrecognized arguments =>
    "unrecognized arguments: " ++ " ".intercalate arguments

------------------------------------------------------------
-- Items
------------------------------------------------------------

/- What an argument is. -/
inductive Item where
  /- A file name, or the value of a switch before it. -/
  | operand (text : String)
  /- Two dashes, behind which all arguments are operands. -/
  | marker
  /-
    A switch, whether it stands behind one dash, and the value
    that is attached to it.
  -/
  | switch
      (switch : Switch) (short : Bool) (value : Option String)
  /- What looks like a switch and is none. -/
  | unknown (text : String)
deriving DecidableEq

/- Whether a text has digits only, and at least one. -/
def isDigits
    (cs : List Char) : Bool :=
  !cs.isEmpty && cs.all Text.isDecimalDigit

def dropLineFeed
    (cs : List Char) : List Char :=
  if cs.getLast? = some '\n' then cs.dropLast else cs

/-
  Whether what follows a dash makes it a negative number:
  digits, or digits behind a point with or without others
  before it.
-/
def isNumber
    (cs : List Char) : Bool :=
  let text := dropLineFeed cs
  isDigits text ||
    match text.dropWhile Text.isDecimalDigit with
    | '.' :: fraction => isDigits fraction
    | _ => false

/- Splits a text at its first equals sign, if it has one. -/
def splitValue
    (cs : List Char) : List Char × Option (List Char) :=
  match cs.dropWhile (· != '=') with
  | [] => (cs, none)
  | _ :: value => (cs.takeWhile (· != '='), some value)

/- A switch under one of its spellings, with its value. -/
def switchItem
    (spelling : String)
    (switch : Switch)
    (value : Option (List Char)) : Item :=
  .switch switch (spelling.length = 2)
    (value.map String.ofList)

/-
  The switches that an argument with a dash may be short for:
  those that begin like it, or the letter behind its dash with
  the rest as a value.
-/
def candidates
    (cs : List Char) : List (String × Item) :=
  match cs with
  | '-' :: '-' :: _ =>
    let (name, value) := splitValue cs
    (Switch.spellings.filter
      (fun entry => name.isPrefixOf entry.1.toList)).map
        (fun entry =>
          (entry.1, switchItem entry.1 entry.2 value))
  | '-' :: letter :: rest =>
    let spelling := String.ofList ['-', letter]
    ((Switch.ofSpelling? spelling).map fun switch =>
      (spelling, switchItem spelling switch (some rest))).toList
  | _ => []

/- The switch that an argument spells out, with its value. -/
def exactSwitch?
    (cs : List Char) : Option Item :=
  let whole := String.ofList cs
  match Switch.ofSpelling? whole with
  | some switch => some (switchItem whole switch none)
  | none =>
    match splitValue cs with
    | (_, none) => none
    | (name, value) =>
      let spelling := String.ofList name
      (Switch.ofSpelling? spelling).map fun switch =>
        switchItem spelling switch value

/- What an argument is, unless it is ambiguous. -/
def Item.ofArgument
    (argument : String) : Except ArgumentError Item :=
  match argument.toList with
  | [] => .ok (.operand argument)
  | ['-'] => .ok (.operand argument)
  | c :: rest =>
    if c ≠ '-' then
      .ok (.operand argument)
    else
      match exactSwitch? (c :: rest) with
      | some item => .ok item
      | none =>
        match candidates (c :: rest) with
        | [(_, item)] => .ok item
        | _ :: _ :: _ =>
          .error
            (.ambiguous argument
              ((candidates (c :: rest)).map Prod.fst))
        | [] =>
          .ok
            (if isNumber rest || rest.contains ' ' then
              .operand argument
            else
              .unknown argument)

/- What all arguments are, or the first that is ambiguous. -/
def Item.ofArguments :
    List String → Except ArgumentError (List Item)
  | [] => .ok []
  | argument :: rest =>
    if argument = "--" then
      .ok (.marker :: rest.map .operand)
    else
      match Item.ofArgument argument with
      | .error e => .error e
      | .ok item => (Item.ofArguments rest).map (item :: ·)

end MathScan.CommandLine
