/-
  The three ways of ending a line. A text that was read from
  bytes ends its lines with a line feed only, whatever ended
  them before. A text that still goes on has complete lines
  and a rest behind them.

  Key definitions include:
    * `unifyNewlines`
    * `lines`
    * `completeLines`
-/

namespace MathScan.Text

------------------------------------------------------------
-- One way of ending a line
------------------------------------------------------------

/-
  A carriage return, alone or with the line feed after it,
  becomes one line feed.
-/
def unifyNewlines : List Char → List Char
  | [] => []
  | '\r' :: '\n' :: rest => '\n' :: unifyNewlines rest
  | c :: rest =>
    (if c = '\r' then '\n' else c) :: unifyNewlines rest

/- The lines of a text, without the line feeds between them. -/
def lines : List Char → List (List Char)
  | [] => [[]]
  | c :: rest =>
    if c = '\n' then
      [] :: lines rest
    else
      match lines rest with
      | [] => [[c]]
      | line :: more => (c :: line) :: more

/-
  The complete lines of a text that goes on, and the text
  behind them. A carriage return at its end completes no line
  yet, since the line feed that belongs to it may follow.
-/
def completeLines
    (text : List Char) : List (List Char) × List Char :=
  let returns := text.getLast? == some '\r'
  let settled := if returns then text.dropLast else text
  let all := lines (unifyNewlines settled)
  (all.dropLast,
    all.getLast?.getD [] ++ if returns then ['\r'] else [])

end MathScan.Text
