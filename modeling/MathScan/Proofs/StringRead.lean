import MathScan.Proofs.Progress

/-
  Strings at the cursor. A read of a string has four outcomes,
  and each of them leaves the cursor at a place of its own:
  nothing is left, no string begins, no quote follows, or the
  string ends at the first quote that follows. This holds
  wherever the cursor stands, also inside of a token that was
  begun by single characters, and reading goes on from there.

  Key definitions include:
    * `NextQuote`
    * `Scanner.ReadsString`

  The key statements are:
    * `drop_of_nextQuote`
    * `Scanner.readString_closed`
    * `Scanner.drain_from_cursor`
    * `Session.readsString_after`
-/

------------------------------------------------------------
-- The Next Quote
------------------------------------------------------------

namespace MathScan

/-
  The first quote behind an offset of a source, by its own
  offset.
-/
structure NextQuote
    (source : List Char)
    (offset last : Nat) : Prop where
  behind : offset < last
  quote_at : source[last]? = some quote
  none_between :
    ∀ i, offset < i → i < last → source[i]? ≠ some quote

variable {source : List Char} {offset last : Nat} {c : Char}

/- A source from an offset on begins with what stands there. -/
theorem drop_of_getElem?
    (hChar : source[offset]? = some c) :
    source.drop offset = c :: source.drop (offset + 1) := by
  rcases List.getElem?_eq_some_iff.mp hChar with ⟨hWithin, hAt⟩
  rw [List.drop_eq_getElem_cons hWithin, hAt]

/- If quotes stand behind an offset, one of them is the first. -/
theorem exists_nextQuote
    (hQuote : quote ∈ source.drop (offset + 1)) :
    ∃ last, NextQuote source offset last := by
  rcases List.eq_append_cons_of_mem hQuote with
    ⟨content, after, hSplit, hFirst⟩
  have hAt (i : Nat) :
      source[offset + 1 + i]? = (content ++ quote :: after)[i]? := by
    rw [← hSplit, List.getElem?_drop]
  refine ⟨offset + 1 + content.length, ?_, ?_, ?_⟩
  · omega
  · rw [hAt, List.getElem?_append_right (Nat.le_refl _),
      Nat.sub_self, List.getElem?_cons_zero]
  · intro i hBehind hBefore hOther
    have hWithin : i - (offset + 1) < content.length := by
      omega
    have hIndex : offset + 1 + (i - (offset + 1)) = i := by
      omega
    rw [← hIndex, hAt, List.getElem?_append_left hWithin]
      at hOther
    exact hFirst (List.mem_of_getElem? hOther)

/- No quote stands between an offset and the next quote. -/
theorem quote_notMem_of_nextQuote
    (hNext : NextQuote source offset last) :
    quote ∉ source.extract (offset + 1) last := by
  intro hMem
  rcases List.mem_iff_getElem?.mp hMem with ⟨i, hAt⟩
  have hWithin : i < last - (offset + 1) := by
    have hLength := (List.getElem?_eq_some_iff.mp hAt).1
    rw [List.extract_eq_take_drop, List.length_take] at hLength
    omega
  rw [List.extract_eq_take_drop,
    List.getElem?_take_of_lt hWithin, List.getElem?_drop] at hAt
  exact hNext.none_between (offset + 1 + i) (by omega) (by omega)
    hAt

/- A source from a quote on, parted at the next quote. -/
theorem drop_of_nextQuote
    (hQuote : source[offset]? = some quote)
    (hNext : NextQuote source offset last) :
    source.drop offset =
      quote ::
        (source.extract (offset + 1) last ++
          quote :: source.drop (last + 1)) := by
  have hBehind := hNext.behind
  have hLast :
      (source.drop (offset + 1)).drop (last - (offset + 1)) =
        source.drop last := by
    rw [List.drop_drop]
    congr 1
    omega
  rw [drop_of_getElem? hQuote, ← drop_of_getElem? hNext.quote_at,
    ← hLast, List.extract_eq_take_drop, List.take_append_drop]

end MathScan

------------------------------------------------------------
-- Reads of a String
------------------------------------------------------------

namespace MathScan

namespace Scanner

variable {s : Scanner} {c : Char} {content more after : List Char}

theorem readString_of_rest_eq_nil
    (hRest : s.rest = []) :
    s.readString = (.error s.overrun, s) := by
  rw [readString, hRest]

/- What stands where no string begins is passed over. -/
theorem readString_malformed
    (hRest : s.rest = c :: more)
    (hOther : c ≠ quote) :
    s.readString =
      (.error (.malformedString (String.singleton c) s.here),
        s.advance 1) := by
  simp only [readString, hRest, hOther, if_false]

/- Where no quote follows, nothing is left behind the string. -/
theorem readString_unclosed
    (hRest : s.rest = quote :: content)
    (hContent : quote ∉ content) :
    s.readString =
      (.error (.unterminatedString s.here),
        s.advance s.rest.length) := by
  have hOther := bne_quote_of_notMem hContent
  have hTake : content.takeWhile (· != quote) = content :=
    List.takeWhile_eq_self_iff.mpr hOther
  have hDrop : content.dropWhile (· != quote) = [] :=
    List.dropWhile_eq_nil_iff.mpr hOther
  simp only [readString, hRest, if_true, hTake, hDrop,
    List.length_cons]

/- A string ends at the first quote that follows. -/
theorem readString_closed
    (hRest : s.rest = quote :: (content ++ quote :: after))
    (hContent : quote ∉ content) :
    s.readString =
      (.ok (.ofString (String.ofList content) (some s.here)),
        s.advance (content.length + 2)) := by
  have hOther := bne_quote_of_notMem hContent
  have hTake :
      (content ++ quote :: after).takeWhile (· != quote) =
        content := by
    rw [List.takeWhile_append_of_pos hOther,
      List.takeWhile_cons_of_neg (by simp), List.append_nil]
  have hDrop :
      (content ++ quote :: after).dropWhile (· != quote) =
        quote :: after := by
    rw [List.dropWhile_append_of_pos hOther,
      List.dropWhile_cons_of_neg (by simp)]
  simp only [readString, hRest, if_true, hTake, hDrop]

/- Whatever a read of a string comes to, only the cursor moves. -/
theorem exists_readString_eq_advance
    (s : Scanner) :
    ∃ n, s.readString.2 = s.advance n := by
  cases hRest : s.rest with
  | nil =>
      refine ⟨0, ?_⟩
      rw [readString_of_rest_eq_nil hRest, advance_zero]
  | cons c more =>
      by_cases hOther : c ≠ quote
      · rw [readString_malformed hRest hOther]
        exact ⟨1, rfl⟩
      · rw [not_not.mp hOther] at hRest
        by_cases hQuote : quote ∈ more
        · rcases List.eq_append_cons_of_mem hQuote with
            ⟨content, after, rfl, hContent⟩
          rw [readString_closed hRest hContent]
          exact ⟨content.length + 2, rfl⟩
        · rw [readString_unclosed hRest hQuote]
          exact ⟨s.rest.length, rfl⟩

/-
  A drain from a cursor reads the text behind it as a source
  of its own, moved behind the text in front of it.
-/
theorem drain_from_cursor
    (s : Scanner)
    (hWithin : s.position ≤ s.source.length) :
    let before := s.source.take s.position
    let u :=
      Scanner.ofChars (s.source.drop s.position) s.filename
        s.mode
    s.drain.tokens = u.drain.tokens.map (Token.after before) ∧
      s.drain.failure =
        u.drain.failure.map (ScanError.after before) ∧
      s.drain.scanner.position =
        s.position + u.drain.scanner.position := by
  intro before u
  have hLength : before.length = s.position := by
    rw [List.length_take]
    exact Nat.min_eq_left hWithin
  have hSource : s.source = before ++ u.source :=
    (List.take_append_drop _ _).symm
  have hDrain :=
    drain_after (s := s) (u := u) rfl rfl hSource hLength.symm
  rw [hLength] at hDrain
  exact hDrain

end Scanner

end MathScan

------------------------------------------------------------
-- Outcomes of a Read
------------------------------------------------------------

namespace MathScan

namespace Scanner

/-
  What a read of a string comes to, by what stands at the
  cursor and behind it:

  At the end of the source it is a read past the end, which
  changes nothing. At a character that is no quote the string
  is malformed, and the cursor is behind that character. At a
  quote that no other one follows the string has no end, and
  the cursor is at the end of the source. At all other quotes
  the content is what stands in front of the next one, and
  the cursor is behind that. There are no other cases. Errors
  are at the cursor, as it was, and so is the string. At each
  quote the next token is the same, as is the cursor behind
  it. Only the cursor changes, and from where it is then, a
  drain reads what follows it as a source of its own.
-/
structure ReadsString
    (source : List Char)
    (s : Scanner) : Prop where
  cases :
    s.position = source.length ∨
      (∃ c, source[s.position]? = some c ∧ c ≠ quote) ∨
      source[s.position]? = some quote ∧
        (quote ∉ source.drop (s.position + 1) ∨
          ∃ last, NextQuote source s.position last)
  past_end :
    s.position = source.length →
      let e :=
        ScanError.readPastEnd s.position source.length
          (s.place source.length)
      s.readString = (.error e, s) ∧
        e.code = some "L003" ∧
        e.location = s.place source.length
  malformed :
    ∀ c, source[s.position]? = some c → c ≠ quote →
      let e :=
        ScanError.malformedString (String.singleton c)
          (s.place s.position)
      ∃ u, s.readString = (.error e, u) ∧
        e.code = some "L001" ∧
        e.location = s.place s.position ∧
        u.position = s.position + 1
  unclosed :
    source[s.position]? = some quote →
      quote ∉ source.drop (s.position + 1) →
        let e :=
          ScanError.unterminatedString (s.place s.position)
        ∃ u, s.readString = (.error e, u) ∧
          e.code = some "L002" ∧
          e.location = s.place s.position ∧
          u.position = source.length
  closed :
    ∀ last, source[s.position]? = some quote →
      NextQuote source s.position last →
        let content := source.extract (s.position + 1) last
        quote ∉ content ∧
          ∃ u, s.readString =
              (.ok
                (.ofString (String.ofList content)
                  (some (s.place s.position))), u) ∧
            u.position = last + 1
  next_eq :
    source[s.position]? = some quote →
      s.next = (s.readString.1.map some, s.readString.2)
  kept :
    s.readString.2.source = source ∧
      s.readString.2.filename = s.filename ∧
      s.readString.2.mode = s.mode
  continues :
    let u := s.readString.2
    let before := source.take u.position
    let behind :=
      Scanner.ofChars (source.drop u.position) s.filename s.mode
    u.drain.tokens =
        behind.drain.tokens.map (Token.after before) ∧
      u.drain.failure =
        behind.drain.failure.map (ScanError.after before) ∧
      u.drain.scanner.position =
        u.position + behind.drain.scanner.position

/- A scanner with its cursor in the source reads strings so. -/
theorem readsString_of_within
    (s : Scanner)
    (hWithin : s.position ≤ s.source.length) :
    ReadsString s.source s := by
  have hRest {c : Char}
      (hChar : s.source[s.position]? = some c) :
      s.rest = c :: s.source.drop (s.position + 1) := by
    rw [s.rest_eq, drop_of_getElem? hChar]
  have hMoved := s.moved_readString
  have hKept :
      s.readString.2.source = s.source ∧
        s.readString.2.filename = s.filename ∧
        s.readString.2.mode = s.mode := by
    rcases s.exists_readString_eq_advance with ⟨n, hAdvance⟩
    rw [hAdvance]
    exact ⟨rfl, rfl, rfl⟩
  refine
    { cases := ?_
      past_end := ?_
      malformed := ?_
      unclosed := ?_
      closed := ?_
      next_eq := ?_
      kept := hKept
      continues := ?_ }
  · by_cases hEnd : s.position = s.source.length
    · exact .inl hEnd
    · have hBefore : s.position < s.source.length := by
        omega
      right
      have hChar := List.getElem?_eq_getElem hBefore
      generalize s.source[s.position] = c at hChar
      by_cases hOther : c ≠ quote
      · exact .inl ⟨c, hChar, hOther⟩
      · rw [not_not.mp hOther] at hChar
        refine .inr ⟨hChar, ?_⟩
        by_cases hQuote :
            quote ∈ s.source.drop (s.position + 1)
        · exact .inr (exists_nextQuote hQuote)
        · exact .inl hQuote
  · intro hEnd
    have hNothing := (rest_eq_nil_iff hWithin).mpr hEnd
    exact ⟨readString_of_rest_eq_nil hNothing, rfl, rfl⟩
  · intro c hChar hOther
    exact ⟨_, readString_malformed (hRest hChar) hOther, rfl,
      rfl, rfl⟩
  · intro hQuote hNone
    refine ⟨_, readString_unclosed (hRest hQuote) hNone, rfl,
      rfl, ?_⟩
    rw [position_advance, length_rest]
    omega
  · intro last hQuote hNext content
    have hContent : quote ∉ content :=
      quote_notMem_of_nextQuote hNext
    have hParted := drop_of_nextQuote hQuote hNext
    rw [← s.rest_eq] at hParted
    refine ⟨hContent, _, readString_closed hParted hContent, ?_⟩
    have hBehind := hNext.behind
    have hLast := (List.getElem?_eq_some_iff.mp hNext.quote_at).1
    have hLength :
        (s.source.extract (s.position + 1) last).length =
          last - (s.position + 1) := by
      rw [List.extract_eq_take_drop, List.length_take,
        List.length_drop]
      omega
    rw [position_advance, hLength]
    omega
  · intro hQuote
    exact next_of_quote (hRest hQuote)
  · intro u before behind
    have hDrain :=
      u.drain_from_cursor
        (by rw [hMoved.source_eq]; exact hMoved.within hWithin)
    rw [hKept.1, hKept.2.1, hKept.2.2] at hDrain
    exact hDrain

end Scanner

namespace Session

/-
  Whatever a scanner has been asked, in whatever order, it
  reads a string by what stands at its cursor and behind it.
-/
theorem readsString_after
    (source : List Char)
    (filename : String)
    (mode : NumberMode)
    (requests : List Request) :
    let s :=
      ((ofScanner (.ofChars source filename mode)).after
        requests).scanner
    s.ReadsString source := by
  intro s
  have hStart :
      (Scanner.ofChars source filename mode).Moved s :=
    after_moved (ofScanner _) requests
  have hSource : s.source = source := hStart.source_eq
  have hWithin : s.position ≤ s.source.length := by
    rw [hSource]
    exact hStart.within (Nat.zero_le _)
  rw [← hSource]
  exact s.readsString_of_within hWithin

end Session

end MathScan
