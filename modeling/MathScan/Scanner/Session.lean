import MathScan.Scanner.Drain

/-
  Sessions: a scanner that is asked one thing after another.
  Iterators may be made at any time. They all read from the
  one cursor of the scanner, and one that has come to an end,
  or to an error, stays there.

  Key definitions include:
    * `Session`
    * `Request`
    * `Answer`
    * `Session.step`
    * `Session.run`
-/

namespace MathScan

------------------------------------------------------------
-- Requests and answers
------------------------------------------------------------

/-
  A scanner with its iterators, each of which is live until it
  has come to its end.
-/
structure Session where
  scanner : Scanner
  iterators : List Bool

/- What a scanner may be asked. -/
inductive Request where
  /- The next token. -/
  | next
  /- All tokens that are left. -/
  | tokenize
  /- A new iterator. -/
  | newIterator
  /- The next token, by an iterator. -/
  | advanceIterator (index : Nat)
  /- The character at the cursor. -/
  | peek
  /- The character at the cursor, to be moved behind it. -/
  | read
  /- The string at the cursor. -/
  | readString
  /- The location of an offset. -/
  | locate (offset : Nat)
  /- What the scanner holds. -/
  | describe
  /- Another name for the source. -/
  | rename (filename : String)
  /- Another mode. -/
  | setMode (mode : NumberMode)
deriving DecidableEq

/- What a scanner answers. -/
inductive Answer where
  | token (t : Option Token)
  | tokens (ts : List Token)
  | iterator (index : Nat)
  | character (c : Char)
  | location (place : Location)
  | description
      (source : List Char)
      (filename : String)
      (mode : NumberMode)
      (remaining : Nat)
  | done
deriving DecidableEq

------------------------------------------------------------
-- Steps
------------------------------------------------------------

namespace Session

def ofScanner
    (s : Scanner) : Session :=
  ⟨s, []⟩

/- A session with its scanner changed by an answer. -/
def answered
    {α : Type}
    (session : Session)
    (make : α → Answer)
    (reply : Except ScanError α × Scanner) :
    Except ScanError Answer × Session :=
  (reply.1.map make, { session with scanner := reply.2 })

/- Whether a read gave a token, so that more may follow. -/
def gaveToken : Except ScanError (Option Token) → Bool
  | .ok (some _) => true
  | _ => false

/- The next token by an iterator, if that is live. -/
def advanceIterator
    (session : Session)
    (index : Nat) : Except ScanError Answer × Session :=
  if session.iterators.getD index false then
    let reply := session.scanner.next
    answered
      { session with
        iterators :=
          session.iterators.set index (gaveToken reply.1) }
      .token reply
  else
    (.ok (.token none), session)

def step
    (session : Session) :
    Request → Except ScanError Answer × Session
  | .next => session.answered .token session.scanner.next
  | .tokenize =>
    session.answered .tokens session.scanner.tokenize
  | .newIterator =>
    (.ok (.iterator session.iterators.length),
      { session with iterators := session.iterators ++ [true] })
  | .advanceIterator index => session.advanceIterator index
  | .peek =>
    session.answered .character
      (session.scanner.peek, session.scanner)
  | .read => session.answered .character session.scanner.read
  | .readString =>
    session.answered (.token ∘ some) session.scanner.readString
  | .locate offset =>
    (.ok (.location (session.scanner.place offset)), session)
  | .describe =>
    (.ok
      (.description session.scanner.source
        session.scanner.filename session.scanner.mode
        session.scanner.rest.length),
      session)
  | .rename filename =>
    (.ok .done,
      { session with scanner := session.scanner.rename filename })
  | .setMode mode =>
    (.ok .done,
      { session with scanner := session.scanner.setMode mode })

------------------------------------------------------------
-- Runs
------------------------------------------------------------

/- An answer, with the state of the scanner after it. -/
structure Reply where
  answer : Except ScanError Answer
  position : Nat
  atEnd : Bool

/- Answers requests in order; errors do not end the session. -/
def run
    (session : Session) : List Request → List Reply
  | [] => []
  | request :: more =>
    let (answer, after) := session.step request
    ⟨answer, after.scanner.position, after.scanner.atEnd⟩ ::
      after.run more

end Session

end MathScan
