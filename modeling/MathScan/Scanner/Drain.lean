import MathScan.Argument
import MathScan.Scanner.Next

/-
  Reading all tokens.

  Key definitions include:
    * `Drain`
    * `Scanner.drain`
    * `Scanner.tokenize`
    * `tokenize`
    * `Scanner.ofArgument?`
-/

namespace MathScan

------------------------------------------------------------
-- Drains
------------------------------------------------------------

/-
  What reading to the end gives: the tokens, the error that
  ended the reading early, if one did, and the scanner after
  the last read.
-/
structure Drain where
  tokens : List Token
  failure : Option ScanError
  scanner : Scanner

namespace Scanner

/- Reads until there is no token or an error. -/
def drain
    (s : Scanner) : Drain :=
  match hNext : s.next.1 with
  | .error e => ⟨[], some e, s.next.2⟩
  | .ok none => ⟨[], none, s.next.2⟩
  | .ok (some t) =>
    have := length_rest_next s hNext
    let more := s.next.2.drain
    { more with tokens := t :: more.tokens }
termination_by s.rest.length

/- Reads all tokens; an error takes the place of them all. -/
def tokenize
    (s : Scanner) : Except ScanError (List Token) × Scanner :=
  let all := s.drain
  match all.failure with
  | some e => (.error e, all.scanner)
  | none => (.ok all.tokens, all.scanner)

end Scanner

/- The tokens of a text. -/
def tokenize
    (source filename : String)
    (mode : NumberMode) : Except ScanError (List Token) :=
  (Scanner.ofText source filename mode).tokenize.1

------------------------------------------------------------
-- Sources of any kind
------------------------------------------------------------

/- Why an argument is no source. -/
inductive SourceError where
  /- There is no argument. -/
  | missing
  /- An argument of this kind is no text. -/
  | wrongKind (given : Argument)
deriving DecidableEq

def SourceError.message : SourceError → String
  | missing => "Scanner requires source text, got None"
  | wrongKind given =>
    "Scanner source must be str, not " ++ given.kind

/- A scanner at the start of a source, which must be a text. -/
def Scanner.ofArgument?
    (source : Argument)
    (filename : String)
    (mode : NumberMode) : Except SourceError Scanner :=
  match source with
  | .text s => .ok (ofText s filename mode)
  | .missing => .error .missing
  | given => .error (.wrongKind given)

end MathScan
