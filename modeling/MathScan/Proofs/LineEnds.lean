import MathScan.Proofs.Dump

/-
  Texts of files. Each line of a file may end in one of three
  ways, and a text is read back from them all, unless a line
  feed comes right behind a carriage return of a line before.
  So the tokens of a file are those of its text. Bytes of no
  text are refused, where the longest text in front of them
  comes to its end.

  Key definitions include:
    * `Text.LineEnd`
    * `Text.writeNewlines`
    * `Text.Apart`
    * `ReadsFile`

  The key statements are:
    * `Text.unifyNewlines_writeNewlines_iff`
    * `tokenizeFile_readsFile`
-/

------------------------------------------------------------
-- Ways of Ending a Line
------------------------------------------------------------

namespace MathScan.Text

/- The ways of ending a line. -/
inductive LineEnd where
  /- A line feed. -/
  | feed
  /- A carriage return with a line feed behind it. -/
  | returnFeed
  /- A carriage return alone. -/
  | loneReturn
deriving DecidableEq

def LineEnd.chars : LineEnd → List Char
  | feed => ['\n']
  | returnFeed => ['\r', '\n']
  | loneReturn => ['\r']

/-
  A text with its line feeds written as line ends of any kind,
  each by the offset that it has in the text.
-/
def writeNewlines
    (kind : Nat → LineEnd) : List Char → List Char
  | [] => []
  | c :: rest =>
    (if c = '\n' then (kind 0).chars else [c]) ++
      writeNewlines (fun offset => kind (offset + 1)) rest

/-
  Whether no line feed is written right behind the carriage
  return of another line end.
-/
def Apart
    (kind : Nat → LineEnd)
    (cs : List Char) : Prop :=
  ∀ offset,
    cs[offset]? = some '\n' → cs[offset + 1]? = some '\n' →
      kind offset = .loneReturn → kind (offset + 1) ≠ .feed

variable {kind : Nat → LineEnd} {c : Char} {cs rest : List Char}

/- Line ends are apart from the first one on. -/
theorem apart_cons_iff :
    Apart kind (c :: rest) ↔
      ¬ (c = '\n' ∧ rest.head? = some '\n' ∧
          kind 0 = .loneReturn ∧ kind 1 = .feed) ∧
        Apart (fun offset => kind (offset + 1)) rest := by
  constructor
  · intro hApart
    constructor
    · rintro ⟨rfl, hHead, hReturn, hFeed⟩
      rw [List.head?_eq_getElem?] at hHead
      exact hApart 0 rfl hHead hReturn hFeed
    · intro offset hFirst hSecond
      exact hApart (offset + 1) hFirst hSecond
  · rintro ⟨hHead, hRest⟩ offset hFirst hSecond hReturn hFeed
    cases offset with
    | zero =>
        apply hHead
        rw [List.head?_eq_getElem?]
        exact ⟨Option.some.inj hFirst, hSecond, hReturn, hFeed⟩
    | succ offset =>
        exact hRest offset hFirst hSecond hReturn hFeed

theorem unifyNewlines_cons
    (hReturn : c ≠ '\r')
    (rest : List Char) :
    unifyNewlines (c :: rest) = c :: unifyNewlines rest := by
  rw [unifyNewlines]
  · rw [if_neg hReturn]
  · intro more hHead
    exact absurd hHead hReturn

/- A carriage return alone becomes a line feed. -/
theorem unifyNewlines_loneReturn
    (hAlone : rest.head? ≠ some '\n') :
    unifyNewlines ('\r' :: rest) =
      '\n' :: unifyNewlines rest := by
  rw [unifyNewlines]
  · rw [if_pos rfl]
  · rintro more - rfl
    exact hAlone rfl

/- The character in front of a text that is written. -/
theorem head?_writeNewlines
    (kind : Nat → LineEnd)
    (hReturn : '\r' ∉ cs) :
    (writeNewlines kind cs).head? = some '\n' ↔
      cs.head? = some '\n' ∧ kind 0 = .feed := by
  cases cs with
  | nil => simp [writeNewlines]
  | cons c rest =>
      by_cases hFeed : c = '\n'
      · subst hFeed
        cases hKind : kind 0 with
        | feed => simp [writeNewlines, LineEnd.chars, hKind]
        | returnFeed =>
            simp [writeNewlines, LineEnd.chars, hKind]
        | loneReturn =>
            simp [writeNewlines, LineEnd.chars, hKind]
      · simp [writeNewlines, hFeed]

/-
  A line end is read back, or is lost as a part of the next
  one, which is read instead of it.
-/
theorem unifyNewlines_writeNewlines_feed
    (hReturn : '\r' ∉ rest) :
    unifyNewlines (writeNewlines kind ('\n' :: rest)) =
      if rest.head? = some '\n' ∧ kind 0 = .loneReturn ∧
          kind 1 = .feed then
        unifyNewlines
          (writeNewlines (fun offset => kind (offset + 1)) rest)
      else
        '\n' ::
          unifyNewlines
            (writeNewlines (fun offset => kind (offset + 1))
              rest) := by
  have hHead :=
    head?_writeNewlines
      (fun offset => kind (offset + 1)) hReturn
  rw [writeNewlines, if_pos rfl]
  generalize
    writeNewlines (fun offset => kind (offset + 1)) rest = body
    at hHead ⊢
  cases hKind : kind 0 with
  | feed =>
      rw [if_neg (by simp)]
      exact unifyNewlines_cons (by decide) body
  | returnFeed =>
      rw [if_neg (by simp)]
      rfl
  | loneReturn =>
      by_cases hNext : body.head? = some '\n'
      · have hMerged := hHead.mp hNext
        rcases List.head?_eq_some_iff.mp hNext with ⟨more, rfl⟩
        rw [if_pos ⟨hMerged.1, rfl, hMerged.2⟩,
          unifyNewlines_cons (by decide)]
        rfl
      · have hApart :
            ¬ (rest.head? = some '\n' ∧
                LineEnd.loneReturn = .loneReturn ∧
                kind 1 = .feed) := by
          rintro ⟨hFirst, _, hFeed⟩
          exact hNext (hHead.mpr ⟨hFirst, hFeed⟩)
        rw [if_neg hApart]
        exact unifyNewlines_loneReturn hNext

/- No text grows by being written and read. -/
theorem length_unifyNewlines_writeNewlines
    (kind : Nat → LineEnd)
    (hReturn : '\r' ∉ cs) :
    (unifyNewlines (writeNewlines kind cs)).length ≤
      cs.length := by
  induction cs generalizing kind with
  | nil => simp [writeNewlines, unifyNewlines]
  | cons c rest ih =>
      simp only [List.mem_cons, not_or] at hReturn
      have hRest :=
        ih (fun offset => kind (offset + 1)) hReturn.2
      by_cases hFeed : c = '\n'
      · subst hFeed
        rw [unifyNewlines_writeNewlines_feed hReturn.2]
        split
        · rw [List.length_cons]
          omega
        · rw [List.length_cons, List.length_cons]
          omega
      · rw [writeNewlines, if_neg hFeed, List.singleton_append,
          unifyNewlines_cons (Ne.symm hReturn.1),
          List.length_cons, List.length_cons]
        omega

/-
  A text is read back, whichever line ends it is written with,
  exactly if these are apart.
-/
theorem unifyNewlines_writeNewlines_iff
    (kind : Nat → LineEnd)
    (hReturn : '\r' ∉ cs) :
    unifyNewlines (writeNewlines kind cs) = cs ↔
      Apart kind cs := by
  induction cs generalizing kind with
  | nil => simp [writeNewlines, unifyNewlines, Apart]
  | cons c rest ih =>
      simp only [List.mem_cons, not_or] at hReturn
      have hRest :=
        ih (fun offset => kind (offset + 1)) hReturn.2
      rw [apart_cons_iff, ← hRest]
      by_cases hFeed : c = '\n'
      · subst hFeed
        rw [unifyNewlines_writeNewlines_feed hReturn.2]
        split
        · rename_i hMerged
          constructor
          · intro hSame
            -- a line end is lost, so that the text is shorter
            have hShorter :=
              length_unifyNewlines_writeNewlines
                (fun offset => kind (offset + 1))
                hReturn.2
            rw [hSame, List.length_cons] at hShorter
            omega
          · rintro ⟨hApart, _⟩
            exact absurd ⟨rfl, hMerged⟩ hApart
        · rename_i hApart
          simp [hApart]
      · rw [writeNewlines, if_neg hFeed, List.singleton_append,
          unifyNewlines_cons (Ne.symm hReturn.1)]
        simp [hFeed]

end MathScan.Text

------------------------------------------------------------
-- Reading Files
------------------------------------------------------------

namespace MathScan

variable {opener : Opener} {path : String}
variable {bytes : List UInt8} {mode : NumberMode}

/- A text is read back from bytes with line ends of any kind. -/
theorem decodeText_encode_writeNewlines
    {kind : Nat → Text.LineEnd}
    {text : List Char}
    (hReturn : '\r' ∉ text)
    (hApart : Text.Apart kind text) :
    decodeText
        (Text.Utf8.encode (Text.writeNewlines kind text)) =
      .ok text := by
  rw [decodeText_encode,
    (Text.unifyNewlines_writeNewlines_iff kind hReturn).mpr hApart]

/- The tokens of a file are those of the text of its bytes. -/
theorem tokenizeFile_of_decodeText
    {text : List Char}
    (hPath : '\x00' ∉ path.toList)
    (hOpen : opener path = .ok bytes)
    (hText : decodeText bytes = .ok text) :
    tokenizeFile opener path mode =
      (tokenize (String.ofList text) path mode).mapError
        .unscanned := by
  rw [tokenizeFile,
    CommandLine.readText_of_opened hPath hOpen, hText, tokenize,
    Scanner.ofText, String.toList_ofList]
  rfl

/- A file is refused for its bytes as these are refused. -/
theorem tokenizeFile_eq_notUtf8_iff
    {fault : Text.Utf8.Fault}
    (hPath : '\x00' ∉ path.toList)
    (hOpen : opener path = .ok bytes) :
    tokenizeFile opener path mode =
        .error (.unread (.notUtf8 fault)) ↔
      decodeText bytes = .error fault := by
  cases hText : decodeText bytes with
  | error other =>
      rw [tokenizeFile,
        CommandLine.readText_of_opened hPath hOpen, hText]
      simp [Except.mapError]
  | ok text =>
      rw [tokenizeFile_of_decodeText hPath hOpen hText]
      cases tokenize (String.ofList text) path mode with
      | error e => simp [Except.mapError]
      | ok ts => simp [Except.mapError]

/- The faults of the text of bytes are those of the bytes. -/
theorem decodeText_eq_error_iff_decode
    {fault : Text.Utf8.Fault} :
    decodeText bytes = .error fault ↔
      Text.Utf8.decode bytes = .error fault := by
  rw [decodeText]
  cases Text.Utf8.decode bytes with
  | error other => simp [Except.map]
  | ok cs => simp [Except.map]

/-
  How the tokens of a file with given bytes are told:

  If the bytes are those of a text with its lines ended in any
  ways that are apart, the file has the tokens of that text,
  and the places and the error that the text has. The bytes
  are refused exactly if they are those of no text at all, and
  the fault starts behind the longest bytes in front of it
  that are those of a text.
-/
structure ReadsFile
    (opener : Opener)
    (path : String)
    (bytes : List UInt8)
    (mode : NumberMode) : Prop where
  of_text :
    ∀ text kind, '\r' ∉ text → Text.Apart kind text →
      bytes = Text.Utf8.encode (Text.writeNewlines kind text) →
        tokenizeFile opener path mode =
          (tokenize (String.ofList text) path mode).mapError
            .unscanned
  refused_iff :
    (∃ fault,
        tokenizeFile opener path mode =
          .error (.unread (.notUtf8 fault))) ↔
      ∀ text, bytes ≠ Text.Utf8.encode text
  fault_start :
    ∀ fault,
      tokenizeFile opener path mode =
          .error (.unread (.notUtf8 fault)) →
        (∃ text, Text.Utf8.encode text <+: bytes ∧
          fault.start = (Text.Utf8.encode text).length) ∧
        ∀ text, Text.Utf8.encode text <+: bytes →
          (Text.Utf8.encode text).length ≤ fault.start

/-
  A file that can be opened is read up to the ways in which
  its lines end, and only if its bytes are those of a text.
-/
theorem tokenizeFile_readsFile
    (mode : NumberMode)
    (hPath : '\x00' ∉ path.toList)
    (hOpen : opener path = .ok bytes) :
    ReadsFile opener path bytes mode := by
  refine
    { of_text := ?_
      refused_iff := ?_
      fault_start := ?_ }
  · rintro text kind hReturn hApart rfl
    apply tokenizeFile_of_decodeText hPath hOpen
    exact decodeText_encode_writeNewlines hReturn hApart
  · rw [← decodeText_eq_error_iff]
    apply exists_congr
    intro fault
    exact tokenizeFile_eq_notUtf8_iff hPath hOpen
  · intro fault hRefused
    rw [tokenizeFile_eq_notUtf8_iff hPath hOpen,
      decodeText_eq_error_iff_decode, Text.Utf8.decode]
      at hRefused
    constructor
    · rcases Text.Utf8.exists_encode_before_fault hRefused with
        ⟨text, hPrefix, hStart⟩
      exact ⟨text, hPrefix, by rw [hStart, Nat.zero_add]⟩
    · intro text hPrefix
      have hBehind :=
        Text.Utf8.length_encode_le_fault hRefused hPrefix
      rw [Nat.zero_add] at hBehind
      exact hBehind

/-
  A file with lines that end in all three ways, one of them in
  a string.
-/
theorem tokenizeFile_readsFile_mixed :
    let opener : Opener := fun _ =>
      .ok (Text.Utf8.encode "x=\"a\rb\";\n\r\r\ny 42".toList)
    '\x00' ∉ "mixed.ml".toList ∧
      opener "mixed.ml" =
        .ok (Text.Utf8.encode
          "x=\"a\rb\";\n\r\r\ny 42".toList) ∧
      ReadsFile opener "mixed.ml"
        (Text.Utf8.encode "x=\"a\rb\";\n\r\r\ny 42".toList)
        .greedy :=
  ⟨by decide, rfl,
    tokenizeFile_readsFile .greedy (by decide) rfl⟩

end MathScan
