import MathScan.Proofs.Sharing

/-
  Names of sources. A scan does not depend on the name of its
  source. If the same is asked of two scanners of one source,
  under whatever names, and with whatever names assigned on
  the way, then the replies differ in the name in force alone.

  Key definitions include:
    * `Token.named`
    * `ScanError.named`
    * `Answer.named`
    * `Request.nameAfter`
    * `Request.assign`
    * `Reply.Under`
    * `Reply.SameButName`
    * `Session.SameButNames`

  The key statements are:
    * `Scanner.next_rename`
    * `Scanner.drain_rename`
    * `Session.step_rename`
    * `Session.run_sameButNames`
-/

------------------------------------------------------------
-- Another Name
------------------------------------------------------------

namespace MathScan

/- A location under another name. -/
def Location.named
    (name : String)
    (place : Location) : Location :=
  { place with filename := name }

def Token.named
    (name : String)
    (t : Token) : Token :=
  { t with location := t.location.map (Location.named name) }

def ScanError.named
    (name : String) : ScanError → ScanError
  | malformedString found place =>
    malformedString found (place.named name)
  | unterminatedString place =>
    unterminatedString (place.named name)
  | readPastEnd offset length place =>
    readPastEnd offset length (place.named name)
  | reported message place code help suggestions =>
    reported message (place.named name) code help suggestions

def Drain.named
    (name : String)
    (all : Drain) : Drain :=
  { tokens := all.tokens.map (Token.named name)
    failure := all.failure.map (ScanError.named name)
    scanner := all.scanner.rename name }

def Answer.named
    (name : String) : Answer → Answer
  | token t => token (t.map (Token.named name))
  | tokens ts => tokens (ts.map (Token.named name))
  | location place => location (place.named name)
  | description source _ mode remaining =>
    description source name mode remaining
  | answer => answer

def namedReply
    {α : Type}
    (name : String)
    (tell : α → α)
    (reply : Except ScanError α) : Except ScanError α :=
  (reply.mapError (ScanError.named name)).map tell

def Session.rename
    (session : Session)
    (name : String) : Session :=
  { session with scanner := session.scanner.rename name }

/-
  The text of an error, where its source has a given name. It
  is told in the line of the place alone.
-/
def ScanError.textUnder
    (name : String)
    (e : ScanError) : String :=
  e.diagnostic.header ++ "\n" ++
    "  --> " ++ name ++ ":" ++ toString e.location.line ++
    ":" ++ toString e.location.column ++ "\n" ++
    e.diagnostic.helpLine ++ e.diagnostic.suggestionLines

theorem Token.text_named
    (name : String)
    (t : Token) :
    (t.named name).text = t.text := rfl

theorem ScanError.diagnostic_named
    (name : String)
    (e : ScanError) :
    (e.named name).diagnostic =
      { e.diagnostic with location := e.location.named name } := by
  cases e with
  | malformedString found place => rfl
  | unterminatedString place => rfl
  | readPastEnd offset length place => rfl
  | reported message place code help suggestions => rfl

theorem ScanError.code_named
    (name : String)
    (e : ScanError) :
    (e.named name).code = e.code := by
  rw [code, diagnostic_named, code]

theorem ScanError.location_named
    (name : String)
    (e : ScanError) :
    (e.named name).location = e.location.named name := by
  rw [location, diagnostic_named]

/- The text of an error under the name that it has. -/
theorem ScanError.text_eq_textUnder
    (e : ScanError) :
    e.text = e.textUnder e.location.filename := by
  simp only [text, Diagnostic.text, Location.text, textUnder,
    location, String.append_assoc]

theorem ScanError.text_named
    (name : String)
    (e : ScanError) :
    (e.named name).text = e.textUnder name := by
  rw [text, diagnostic_named, textUnder, Diagnostic.text]
  simp only [Location.text, Location.named, Diagnostic.header,
    Diagnostic.helpLine, Diagnostic.suggestionLines,
    String.append_assoc]

end MathScan

------------------------------------------------------------
-- Reads Under Another Name
------------------------------------------------------------

namespace MathScan

namespace Scanner

variable {s : Scanner}

theorem peek_rename
    (s : Scanner)
    (name : String) :
    (s.rename name).peek =
      namedReply name id s.peek := by
  have hRest : (s.rename name).rest = s.rest := rfl
  rw [peek, peek, hRest]
  cases s.rest with
  | nil => rfl
  | cons c more => rfl

theorem read_rename
    (s : Scanner)
    (name : String) :
    (s.rename name).read =
      (namedReply name id s.read.1, s.read.2.rename name) := by
  have hRest : (s.rename name).rest = s.rest := rfl
  rw [read, read, hRest]
  cases s.rest with
  | nil => rfl
  | cons c more => rfl

theorem readString_rename
    (s : Scanner)
    (name : String) :
    (s.rename name).readString =
      (namedReply name (Token.named name) s.readString.1,
        s.readString.2.rename name) := by
  have hRest : (s.rename name).rest = s.rest := rfl
  rw [readString, readString, hRest]
  cases s.rest with
  | nil => rfl
  | cons c more =>
      by_cases hQuote : c = quote
      · simp only [hQuote, if_true]
        cases more.dropWhile (· != quote) with
        | nil => rfl
        | cons d after => rfl
      · simp only [hQuote, if_false]
        rfl

theorem bareToken_named
    (kind : TokenKind)
    (lexeme : List Char)
    (place : Location)
    (name : String) :
    bareToken kind lexeme (place.named name) =
      (bareToken kind lexeme place).named name := by
  cases kind with
  | symbol => rfl
  | number => rfl
  | name => rfl
  | string => rfl

/- The next token is read in the same way under each name. -/
theorem next_rename
    (s : Scanner)
    (name : String) :
    (s.rename name).next =
      (namedReply name (Option.map (Token.named name)) s.next.1,
        s.next.2.rename name) := by
  have hSkip :
      (s.rename name).skipBlanks = s.skipBlanks.rename name := rfl
  rw [next, next, hSkip]
  generalize s.skipBlanks = u
  have hRest : (u.rename name).rest = u.rest := rfl
  rw [readToken, readToken, hRest]
  cases u.rest with
  | nil => rfl
  | cons c more =>
      by_cases hQuote : c = quote
      · simp only [hQuote, if_true, readString_rename]
        cases u.readString.1 with
        | error e => rfl
        | ok t => rfl
      · have hHere :
            (u.rename name).here = u.here.named name := rfl
        simp only [hQuote, if_false, readBare, hHere,
          bareToken_named]
        rfl

theorem drain_rename
    (s : Scanner)
    (name : String) :
    (s.rename name).drain = s.drain.named name := by
  -- by the recursion of the drain under the name that it has
  fun_induction drain s with
  | case1 s e hNext =>
      have hNamed := next_rename s name
      rw [hNext] at hNamed
      exact drain_of_next_error hNamed
  | case2 s hNext =>
      have hNamed := next_rename s name
      rw [hNext] at hNamed
      exact drain_of_next_none hNamed
  | case3 s t hNext hLess more ih =>
      have hNamed := next_rename s name
      rw [hNext] at hNamed
      rw [drain_of_next_token hNamed, ih]
      rfl

theorem tokenize_rename
    (s : Scanner)
    (name : String) :
    (s.rename name).tokenize =
      (namedReply name (List.map (Token.named name))
          s.tokenize.1,
        s.tokenize.2.rename name) := by
  rw [tokenize, tokenize, drain_rename]
  simp only [Drain.named]
  cases s.drain.failure with
  | none => rfl
  | some e => rfl

/- Whether a token was read does not depend on the name. -/
theorem gaveToken_namedReply
    (name : String)
    (reply : Except ScanError (Option Token)) :
    Session.gaveToken
        (namedReply name (Option.map (Token.named name))
          reply) =
      Session.gaveToken reply := by
  cases reply with
  | error e => rfl
  | ok found =>
      cases found with
      | none => rfl
      | some t => rfl

end Scanner

end MathScan

------------------------------------------------------------
-- Names in Replies
------------------------------------------------------------

namespace MathScan

namespace Session

/-
  Whether an answer tells no name of the source but a given
  one: in the places of its tokens, which all have one, in the
  place of its error, as a location, or in a description.
-/
structure Under
    (name : String)
    (answer : Except ScanError Answer) : Prop where
  of_token :
    ∀ t ∈ given answer,
      t.location.map Location.filename = some name
  of_error : ∀ e ∈ raised answer, e.location.filename = name
  of_location :
    ∀ place, answer = .ok (.location place) →
      place.filename = name
  of_description :
    ∀ source told mode remaining,
      answer = .ok (.description source told mode remaining) →
        told = name

theorem given_named
    (name : String)
    (answer : Except ScanError Answer) :
    given (namedReply name (Answer.named name) answer) =
      (given answer).map (Token.named name) := by
  cases answer with
  | error e => rfl
  | ok answer =>
      cases answer with
      | token found =>
          cases found with
          | none => rfl
          | some t => rfl
      | _ => rfl

theorem raised_named
    (name : String)
    (answer : Except ScanError Answer) :
    raised (namedReply name (Answer.named name) answer) =
      (raised answer).map (ScanError.named name) := by
  cases answer with
  | error e => rfl
  | ok answer => rfl

/- An answer under a name tells no other name. -/
theorem under_named
    (name : String)
    {answer : Except ScanError Answer}
    (hPlaces : ∀ t ∈ given answer, t.location.isSome = true) :
    Under name
      (namedReply name (Answer.named name) answer) := by
  constructor
  · intro t hMem
    rw [given_named] at hMem
    rcases List.mem_map.mp hMem with ⟨u, hGiven, rfl⟩
    rcases Option.isSome_iff_exists.mp (hPlaces u hGiven) with
      ⟨place, hPlace⟩
    simp [Token.named, hPlace, Location.named]
  · intro e hMem
    rw [raised_named] at hMem
    rcases List.mem_map.mp hMem with ⟨d, _, rfl⟩
    rw [ScanError.location_named]
    rfl
  · intro place hAnswer
    cases answer with
    | error e => cases hAnswer
    | ok answer =>
        cases answer with
        | location own =>
            cases hAnswer
            rfl
        | _ => cases hAnswer
  · intro source told mode remaining hAnswer
    cases answer with
    | error e => cases hAnswer
    | ok answer =>
        cases answer with
        | description =>
            cases hAnswer
            rfl
        | _ => cases hAnswer

end Session

end MathScan

------------------------------------------------------------
-- Steps Under Another Name
------------------------------------------------------------

namespace MathScan

namespace Request

/- A request, with a given name wherever it assigns one. -/
def named
    (name : String) : Request → Request
  | rename _ => rename name
  | request => request

/- The name in force after a request, with that before it. -/
def nameAfter
    (name : String) : Request → String
  | rename filename => filename
  | _ => name

/- A request assigns the name that is in force after it. -/
theorem named_nameAfter
    (name : String)
    (request : Request) :
    request.named (request.nameAfter name) = request := by
  cases request with
  | rename filename => rfl
  | _ => rfl

end Request

namespace Session

/- The answer to a read, where the source has another name. -/
theorem answered_rename
    {α : Type}
    (session : Session)
    {name : String}
    {make : α → Answer}
    {tell : α → α}
    (reply : Except ScanError α × Scanner)
    {other : Except ScanError α × Scanner}
    (hOther :
      other = (namedReply name tell reply.1, reply.2.rename name))
    (hMake : ∀ x, make (tell x) = (make x).named name) :
    (session.rename name).answered make other =
      (namedReply name (Answer.named name)
          (session.answered make reply).1,
        (session.answered make reply).2.rename name) := by
  subst hOther
  rcases reply with ⟨answer, s⟩
  cases answer with
  | error e => rfl
  | ok x =>
      have hAnswer :
          (Except.ok (make (tell x)) : Except ScanError Answer) =
            .ok ((make x).named name) :=
        congrArg Except.ok (hMake x)
      exact Prod.ext hAnswer rfl

theorem advanceIterator_rename
    (session : Session)
    (name : String)
    (index : Nat) :
    (session.rename name).advanceIterator index =
      (namedReply name (Answer.named name)
          (session.advanceIterator index).1,
        (session.advanceIterator index).2.rename name) := by
  have hNext := Scanner.next_rename session.scanner name
  have hGave :
      gaveToken (session.scanner.rename name).next.1 =
        gaveToken session.scanner.next.1 := by
    rw [hNext, Scanner.gaveToken_namedReply]
  have hScanner :
      (session.rename name).scanner =
        session.scanner.rename name := rfl
  have hIterators :
      (session.rename name).iterators = session.iterators := rfl
  rw [advanceIterator, advanceIterator, hIterators]
  by_cases hLive : session.iterators.getD index false = true
  · rw [if_pos hLive, if_pos hLive]
    simp only [hScanner, hGave]
    exact answered_rename
      { session with
        iterators :=
          session.iterators.set index
            (gaveToken session.scanner.next.1) }
      session.scanner.next hNext (fun _ => rfl)
  · rw [if_neg hLive, if_neg hLive]
    rfl

/-
  A request is answered in the same way under each name, also
  if another name is assigned by it.
-/
theorem step_rename
    (session : Session)
    (name assigned : String)
    (request : Request) :
    (session.rename name).step (request.named assigned) =
      (namedReply name (Answer.named name)
          (session.step request).1,
        (session.step request).2.rename
          ((request.named assigned).nameAfter name)) := by
  cases request with
  | next =>
      have hNext := Scanner.next_rename session.scanner name
      exact answered_rename session session.scanner.next hNext
        (fun _ => rfl)
  | tokenize =>
      have hAll := Scanner.tokenize_rename session.scanner name
      exact answered_rename session session.scanner.tokenize
        hAll (fun _ => rfl)
  | newIterator => rfl
  | advanceIterator index =>
      exact advanceIterator_rename session name index
  | peek =>
      have hPeek := Scanner.peek_rename session.scanner name
      exact answered_rename session
        (session.scanner.peek, session.scanner)
        (Prod.ext hPeek rfl) (fun _ => rfl)
  | read =>
      have hRead := Scanner.read_rename session.scanner name
      exact answered_rename session session.scanner.read hRead
        (fun _ => rfl)
  | readString =>
      have hRead :=
        Scanner.readString_rename session.scanner name
      exact answered_rename session session.scanner.readString
        hRead (fun _ => rfl)
  | locate offset => rfl
  | describe => rfl
  | rename filename => rfl
  | setMode mode => rfl

variable {session : Session} {request : Request}

/-
  A request is answered under the name in force, and leaves
  the name in force that it assigns, if it assigns one.
-/
theorem step_own
    (session : Session)
    (request : Request) :
    session.step request =
      (namedReply session.scanner.filename
          (Answer.named session.scanner.filename)
          (session.step request).1,
        (session.step request).2.rename
          (request.nameAfter session.scanner.filename)) := by
  have hStep := step_rename session session.scanner.filename
    (request.nameAfter session.scanner.filename) request
  rw [Request.named_nameAfter] at hStep
  exact hStep

/- The name in force after a request. -/
theorem filename_step
    (session : Session)
    (request : Request) :
    (session.step request).2.scanner.filename =
      request.nameAfter session.scanner.filename := by
  rw [step_own]
  rfl

theorem isSome_location_next
    {s : Scanner}
    {t : Token}
    (hMem : t ∈ given (s.next.1.map .token)) :
    t.location.isSome = true := by
  have hDrain : t ∈ s.drain.tokens := by
    rw [(Scanner.drain_next s).1]
    exact List.mem_append_left _ hMem
  rcases Scanner.location_of_mem_drain hDrain with
    ⟨offset, hPlace⟩
  rw [hPlace, Option.isSome_some]

theorem isSome_location_tokenize
    {s : Scanner}
    {t : Token}
    (hMem : t ∈ given (s.tokenize.1.map .tokens)) :
    t.location.isSome = true := by
  rw [Scanner.tokenize_eq] at hMem
  cases hFailure : s.drain.failure with
  | some e =>
      rw [hFailure] at hMem
      exact absurd hMem List.not_mem_nil
  | none =>
      rw [hFailure] at hMem
      rcases Scanner.location_of_mem_drain hMem with
        ⟨offset, hPlace⟩
      rw [hPlace, Option.isSome_some]

theorem isSome_location_readString
    {s : Scanner}
    {t : Token}
    (hRead : s.readString.1 = .ok t) :
    t.location.isSome = true := by
  rw [Scanner.readString] at hRead
  cases hRest : s.rest with
  | nil =>
      rw [hRest] at hRead
      cases hRead
  | cons c more =>
      rw [hRest] at hRead
      by_cases hQuote : c = quote
      · simp only [hQuote, if_true] at hRead
        cases hClose : more.dropWhile (· != quote) with
        | nil =>
            rw [hClose] at hRead
            cases hRead
        | cons d after =>
            rw [hClose] at hRead
            cases hRead
            rfl
      · simp only [hQuote, if_false] at hRead
        cases hRead

/- A character is no token. -/
theorem given_character
    (reply : Except ScanError Char) :
    given (reply.map .character) = [] := by
  cases reply with
  | error e => rfl
  | ok c => rfl

theorem isSome_location_step
    {t : Token}
    (hMem : t ∈ given (session.step request).1) :
    t.location.isSome = true := by
  cases request with
  | next => exact isSome_location_next hMem
  | tokenize => exact isSome_location_tokenize hMem
  | advanceIterator index =>
      rw [step, advanceIterator] at hMem
      split at hMem
      · exact isSome_location_next hMem
      · exact absurd hMem List.not_mem_nil
  | peek =>
      rw [step, answered, given_character] at hMem
      exact absurd hMem List.not_mem_nil
  | read =>
      rw [step, answered, given_character] at hMem
      exact absurd hMem List.not_mem_nil
  | readString =>
      rw [step, answered] at hMem
      cases hRead : session.scanner.readString.1 with
      | error e =>
          rw [hRead] at hMem
          exact absurd hMem List.not_mem_nil
      | ok u =>
          rw [hRead] at hMem
          rw [List.mem_singleton.mp hMem]
          exact isSome_location_readString hRead
  | newIterator => exact absurd hMem List.not_mem_nil
  | locate offset => exact absurd hMem List.not_mem_nil
  | describe => exact absurd hMem List.not_mem_nil
  | rename filename => exact absurd hMem List.not_mem_nil
  | setMode mode => exact absurd hMem List.not_mem_nil

/- Each answer tells no name but the one in force. -/
theorem under_step
    (session : Session)
    (request : Request) :
    Under session.scanner.filename (session.step request).1 := by
  rw [step_own]
  apply under_named
  intro t hMem
  exact isSome_location_step hMem

end Session

end MathScan

------------------------------------------------------------
-- Runs Under Two Names
------------------------------------------------------------

namespace MathScan

namespace Request

/- The name in force after some requests. -/
def lastName
    (name : String)
    (requests : List Request) : String :=
  requests.foldl nameAfter name

/- Requests with other names, wherever they assign one. -/
def assign
    (choice : Nat → String)
    (requests : List Request) : List Request :=
  requests.mapIdx fun i request => request.named (choice i)

/- The first of some requests with other names. -/
theorem take_assign
    (choice : Nat → String)
    (requests : List Request)
    (i : Nat) :
    (assign choice requests).take i =
      assign choice (requests.take i) := by
  apply List.ext_getElem?
  intro j
  simp only [assign, List.getElem?_take, List.getElem?_mapIdx]
  split
  · rfl
  · rfl

end Request

namespace Session

def reply
    (session : Session)
    (request : Request) : Reply :=
  { answer := (session.step request).1
    position := (session.step request).2.scanner.position
    atEnd := (session.step request).2.scanner.atEnd }

theorem run_cons
    (session : Session)
    (request : Request)
    (more : List Request) :
    session.run (request :: more) =
      session.reply request ::
        (session.step request).2.run more := rfl

/- The replies of a run, each by the session at its request. -/
theorem getElem?_run
    (session : Session)
    (requests : List Request)
    (i : Nat) :
    (session.run requests)[i]? =
      requests[i]?.map
        (session.after (requests.take i)).reply := by
  induction requests generalizing session i with
  | nil => rfl
  | cons request more ih =>
      cases i with
      | zero => rfl
      | succ i => exact ih (session.step request).2 i

/- Each request is replied to, also behind an error. -/
theorem length_run
    (session : Session)
    (requests : List Request) :
    (session.run requests).length = requests.length := by
  induction requests generalizing session with
  | nil => rfl
  | cons request more ih =>
      rw [run_cons, List.length_cons, ih, List.length_cons]

/- What is asked later comes after the earlier replies. -/
theorem run_append
    (session : Session)
    (requests later : List Request) :
    session.run (requests ++ later) =
      session.run requests ++
        (session.after requests).run later := by
  induction requests generalizing session with
  | nil => rfl
  | cons request more ih =>
      rw [List.cons_append, run_cons, run_cons, ih, after_cons,
        List.cons_append]

/- No later request changes an earlier reply. -/
theorem run_kept
    (session : Session)
    (requests later : List Request) :
    session.run requests <+: session.run (requests ++ later) := by
  rw [run_append]
  exact List.prefix_append _ _

/- The name in force after some requests is the last assigned. -/
theorem filename_after
    (session : Session)
    (requests : List Request) :
    (session.after requests).scanner.filename =
      Request.lastName session.scanner.filename requests := by
  induction requests generalizing session with
  | nil => rfl
  | cons request more ih =>
      rw [after_cons, ih, filename_step]
      rfl

/- A session under other names stays the same but for them. -/
theorem after_assign
    (session : Session)
    (name : String)
    (choice : Nat → String)
    (requests : List Request) :
    (session.rename name).after
        (Request.assign choice requests) =
      (session.after requests).rename
        (Request.lastName name
          (Request.assign choice requests)) := by
  -- each step may change the name in force, and the choices are
  -- counted from the next request on
  induction requests generalizing session name choice with
  | nil => rfl
  | cons request more ih =>
      rw [Request.assign, List.mapIdx_cons, after_cons,
        after_cons, step_rename]
      exact ih (session.step request).2
        ((request.named (choice 0)).nameAfter name)
        (fun i => choice (i + 1))

/-
  How two replies agree that tell the same under two names.
  The answers are the same but for the name of the source in
  them: kinds, lexemes, values, characters, codes, lines,
  columns and offsets are equal, and so is all that is told of
  the scanner. The text of a token does not tell the name, and
  the text of an error tells it with the place alone.
-/
structure Reply.SameButName
    (name other : String)
    (reply twin : Reply) : Prop where
  answer_eq :
    twin.answer =
      namedReply other (Answer.named other) reply.answer
  position_eq : twin.position = reply.position
  atEnd_eq : twin.atEnd = reply.atEnd
  under : Under name reply.answer
  twin_under : Under other twin.answer
  token_text :
    (given twin.answer).map Token.text =
      (given reply.answer).map Token.text
  error_code :
    (raised twin.answer).map ScanError.code =
      (raised reply.answer).map ScanError.code
  error_text :
    (raised reply.answer).map ScanError.text =
      (raised reply.answer).map
        (ScanError.textUnder name)
  twin_error_text :
    (raised twin.answer).map ScanError.text =
      (raised reply.answer).map
        (ScanError.textUnder other)

/- One request is answered in the same way under two names. -/
theorem reply_sameButName
    (session : Session)
    (other assigned : String)
    (request : Request) :
    Reply.SameButName session.scanner.filename other
      (session.reply request)
      ((session.rename other).reply (request.named assigned)) := by
  have hStep := step_rename session other assigned request
  have hUnder := under_step session request
  have hTwin :=
    under_step (session.rename other) (request.named assigned)
  have hAnswer :
      ((session.rename other).step
          (request.named assigned)).1 =
        namedReply other (Answer.named other)
          (session.step request).1 :=
    congrArg Prod.fst hStep
  refine
    { answer_eq := hAnswer
      position_eq := ?_
      atEnd_eq := ?_
      under := hUnder
      twin_under := hTwin
      token_text := ?_
      error_code := ?_
      error_text := ?_
      twin_error_text := ?_ }
  · simp only [reply, hStep]
    rfl
  · simp only [reply, hStep]
    rfl
  · simp only [reply, hAnswer, given_named, List.map_map]
    apply List.map_congr_left
    intro t _
    exact t.text_named other
  · simp only [reply, hAnswer, raised_named, List.map_map]
    apply List.map_congr_left
    intro e _
    exact e.code_named other
  · apply List.map_congr_left
    intro e hMem
    rw [← hUnder.of_error e hMem]
    exact e.text_eq_textUnder
  · simp only [reply, hAnswer, raised_named, List.map_map]
    apply List.map_congr_left
    intro e _
    exact e.text_named other

/-
  How two runs of the same requests agree, but for the names
  that the source has. The replies agree one by one, each of
  them under the names in force at its request, and no later
  request changes an earlier reply.
-/
structure SameButNames
    (start other : Session)
    (requests others : List Request) : Prop where
  length_eq :
    (start.run requests).length = requests.length
  other_length_eq :
    (other.run others).length = requests.length
  sameButName :
    ∀ i reply twin,
      (start.run requests)[i]? = some reply →
        (other.run others)[i]? = some twin →
          Reply.SameButName
            (Request.lastName start.scanner.filename
              (requests.take i))
            (Request.lastName other.scanner.filename
              (others.take i))
            reply twin
  kept :
    ∀ later, start.run requests <+: start.run (requests ++ later)
  other_kept :
    ∀ later, other.run others <+: other.run (others ++ later)

/-
  Whatever is asked of a scanner, its name and the names that
  it is given on the way make no difference but where they are
  told.
-/
theorem run_sameButNames
    (source : List Char)
    (mode : NumberMode)
    (name other : String)
    (choice : Nat → String)
    (requests : List Request) :
    SameButNames
      (ofScanner (.ofChars source name mode))
      (ofScanner (.ofChars source other mode))
      requests
      (Request.assign choice requests) := by
  let start := ofScanner (.ofChars source name mode)
  have hRename :
      ofScanner (.ofChars source other mode) =
        start.rename other := rfl
  refine
    { length_eq := length_run start requests
      other_length_eq := ?_
      sameButName := ?_
      kept := run_kept start requests
      other_kept := run_kept _ _ }
  · rw [length_run, Request.assign, List.length_mapIdx]
  · intro i reply twin hReply hTwin
    rw [getElem?_run, Option.map_eq_some_iff] at hReply hTwin
    rcases hReply with ⟨request, hRequest, rfl⟩
    rcases hTwin with ⟨twinRequest, hTwinRequest, rfl⟩
    have hNamed :
        twinRequest = request.named (choice i) := by
      rw [Request.assign, List.getElem?_mapIdx, hRequest,
        Option.map_some, Option.some.injEq] at hTwinRequest
      exact hTwinRequest.symm
    have hSame := reply_sameButName
      (start.after (requests.take i))
      (Request.lastName other
        (Request.assign choice (requests.take i)))
      (choice i) request
    rw [filename_after] at hSame
    rw [hNamed, Request.take_assign, hRename, after_assign]
    exact hSame

end Session

end MathScan
