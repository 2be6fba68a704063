import MathScan.Text.Newlines
import MathScan.Text.Utf8

/-
  The search for a line of a file. The bytes of the file come
  in blocks, and the search ends with the block that completes
  a line it looks for. So it finds no fault behind that block,
  but it finds one in the block, even behind the line. A fault
  stands where it does in the block, after the bytes that an
  earlier block left over.

  Key definitions include:
    * `blocks`
    * `findLine`
-/

namespace MathScan

def blockSize : Nat :=
  8192

/- The blocks of a file; only the last may be short. -/
def blocks : List UInt8 → List (List UInt8)
  | [] => []
  | byte :: rest =>
    (byte :: rest.take (blockSize - 1)) ::
      blocks (rest.drop (blockSize - 1))
termination_by bytes => bytes.length
decreasing_by
  simp only [List.length_drop, List.length_cons]
  omega

/-
  Searches some blocks, after the bytes of a character that is
  cut short and the text of a line that is not complete.
-/
def findLineIn
    (wanted : List Char → Bool) :
    List UInt8 → List Char → List (List UInt8) →
    Except Text.Utf8.Fault (Option (List Char))
  | held, text, [] =>
    (Text.Utf8.decode held).map fun cs =>
      (Text.lines (Text.unifyNewlines (text ++ cs))).find?
        wanted
  | held, text, block :: more =>
    match Text.Utf8.decodeComplete (held ++ block) with
    | .error fault => .error fault
    | .ok (cs, held) =>
      let read := Text.completeLines (text ++ cs)
      match read.1.find? wanted with
      | some line => .ok (some line)
      | none => findLineIn wanted held read.2 more

/- The first line of a file that is wanted, if there is one. -/
def findLine
    (wanted : List Char → Bool)
    (bytes : List UInt8) :
    Except Text.Utf8.Fault (Option (List Char)) :=
  findLineIn wanted [] [] (blocks bytes)

end MathScan
