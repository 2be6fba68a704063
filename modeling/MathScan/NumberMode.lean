import MathScan.Text.Blank
import MathScan.Text.Case.Lower
import MathScan.Text.Quoted

/-
  How numbers are scanned, and the setting that says so. The
  language has always had one number token for each digit, and
  that stays the default.

  Key definitions include:
    * `NumberMode`
    * `NumberMode.spelling`
    * `NumberMode.ofSpelling?`
    * `NumberMode.ofSetting`
    * `NumberMode.ofEnvironment`
-/

namespace MathScan

/- How many digits a number token takes. -/
inductive NumberMode where
  /- One digit. -/
  | singleDigit
  /- All digits up to the next other character. -/
  | greedy
deriving DecidableEq

namespace NumberMode

def all : List NumberMode :=
  [singleDigit, greedy]

/- The mode that holds unless another one is chosen. -/
def default : NumberMode :=
  singleDigit

/- The word for a mode in settings and arguments. -/
def spelling : NumberMode → String
  | singleDigit => "single-digit"
  | greedy => "greedy"

def ofSpelling?
    (s : String) : Option NumberMode :=
  all.find? (fun mode => mode.spelling == s)

------------------------------------------------------------
-- The setting
------------------------------------------------------------

/- The environment variable that chooses the mode. -/
def settingName : String :=
  "MATHLANG_NUMERIC_MODE"

/- A setting that names no mode, trimmed and in lower case. -/
structure UnknownSetting where
  setting : String
deriving DecidableEq

def UnknownSetting.message
    (fault : UnknownSetting) : String :=
  settingName ++ "=" ++ Text.quoted fault.setting ++
    " is not a numeric mode (expected one of: " ++
    ", ".intercalate (all.map spelling) ++ ")"

/-
  The mode that a setting names, in any case and with any
  blanks around it. A blank setting names the default.
-/
def ofSetting
    (setting : String) : Except UnknownSetting NumberMode :=
  let word :=
    String.ofList (Text.lowercase (Text.trim setting.toList))
  if word = "" then
    .ok default
  else
    match ofSpelling? word with
    | some mode => .ok mode
    | none => .error ⟨word⟩

def ofEnvironment
    (lookup : String → Option String) :
    Except UnknownSetting NumberMode :=
  ofSetting ((lookup settingName).getD "")

end NumberMode

end MathScan
