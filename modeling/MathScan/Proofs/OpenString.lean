import MathScan.Proofs.Reading
import Mathlib.Logic.Function.Iterate

/-
  The texts that are refused. A quote opens a string if what
  stands before it can be read and does not end in a name; a
  text is refused if there is no quote behind one that opens
  a string.

  Key definitions include:
    * `LeavesOpen`

  The key statements are:
    * `leavesOpen_iff`
    * `tokenize_refuses_iff`
-/

------------------------------------------------------------
-- Strings Without an End
------------------------------------------------------------

namespace MathScan

/-
  Whether a text opens a string behind its front and does not
  close it: the front is read without an error, its last token
  is no name that the quote would belong to, and the content
  has no quote in it.
-/
def LeavesOpen
    (source filename : String)
    (mode : NumberMode)
    (front content : String) : Prop :=
  source = front ++ "\"" ++ content ∧
    quote ∉ content.toList ∧
    ∃ ts,
      tokenize front filename mode = .ok ts ∧
      ∀ t ∈ ts.getLast?,
        ¬ (t.kind = .name ∧ t.EndsAt front.length)

variable {source filename : String} {mode : NumberMode}

/- A text leaves at most one string open. -/
theorem LeavesOpen.unique
    {front content other more : String}
    (hFirst : LeavesOpen source filename mode front content)
    (hSecond : LeavesOpen source filename mode other more) :
    other = front ∧ more = content := by
  have hEq :
      other.toList ++ quote :: more.toList =
        front.toList ++ quote :: content.toList := by
    simpa [quote] using
      congrArg String.toList (hSecond.1.symm.trans hFirst.1)
  rcases append_mark_inj hSecond.2.1 hFirst.2.1 hEq with
    ⟨hFront, hContent⟩
  constructor
  · exact String.toList_injective hFront
  · exact String.toList_injective hContent

/-
  A layout does not go on with a quote, unless it ends in a
  name.
-/
theorem Layout.settled_quote_iff
    (filename : String)
    (layout : Layout mode)
    (content : List Char) :
    Piece.Settled (layout.gap ++ quote :: content)
        layout.pieces ↔
      Piece.Settled layout.gap layout.pieces ∧
        ∀ t ∈ (layout.tokens (Scanner.ofChars layout.text
            filename mode).place).getLast?,
          ¬ (t.kind = .name ∧ t.EndsAt layout.text.length) := by
  rw [Layout.settled_append_iff (Scanner.offset_place _)]
  apply and_congr_right
  intro _
  apply forall₂_congr
  intro t _
  simp only [Token.EndsBefore, List.head?_cons,
    Option.mem_some, forall_eq', TokenKind.goesOn_quote,
    decide_eq_false_iff_not]
  tauto

/- A text leaves a string open if it is read as doing so. -/
theorem leavesOpen_iff
    {front content : String} :
    LeavesOpen source filename mode front content ↔
      ∃ r : Reading mode source.toList,
        r.unclosed = some content.toList ∧
          r.layout.text = front.toList := by
  constructor
  · rintro ⟨rfl, hContent, ts, hRead, hLast⟩
    rw [tokenize_eq_ok_iff, Scanner.ofText] at hRead
    rcases Scanner.exists_settled_layout hRead.1 with
      ⟨layout, hFront, hSettled, hTokens⟩
    have hOpens :
        Piece.Settled (layout.gap ++ quote :: content.toList)
          layout.pieces := by
      rw [layout.settled_quote_iff filename, ← hFront,
        ← hTokens, hRead.2]
      exact ⟨hSettled, hLast⟩
    refine ⟨⟨layout, some content.toList, ?_, ?_, hOpens⟩,
      rfl, hFront.symm⟩
    · simpa using hContent
    · simp [← hFront, quote]
  · rintro ⟨⟨layout, unclosed, hQuote, hText, hOpens⟩,
      hUnclosed, hFront⟩
    dsimp only at hUnclosed hFront
    subst hUnclosed
    rw [Option.elim_some, layout.settled_quote_iff filename]
      at hOpens
    have hRead := tokenize_of_settled filename layout hOpens.1
    have hLast := hOpens.2
    rw [hFront, String.ofList_toList] at hRead
    rw [hFront, String.length_toList] at hLast
    refine ⟨?_, hQuote _ rfl, _, hRead, hLast⟩
    apply String.toList_injective
    simp [hText, hFront, quote]

end MathScan

------------------------------------------------------------
-- Refused Texts
------------------------------------------------------------

namespace MathScan

variable {source filename : String} {mode : NumberMode}

/- What the drain of a text that leaves a string open gives. -/
theorem LeavesOpen.drain_eq
    {front content : String}
    (hOpen : LeavesOpen source filename mode front content) :
    ∃ ts,
      tokenize front filename mode = .ok ts ∧
        (Scanner.ofText source filename mode).drain =
          { tokens := ts
            failure :=
              some (.unterminatedString
                ((Scanner.ofText source filename mode).place
                  front.length))
            scanner :=
              (Scanner.ofText source filename mode).advance
                source.length } := by
  rcases leavesOpen_iff.mp hOpen with ⟨r, hUnclosed, hFront⟩
  have hDrain := Scanner.drain_ofChars filename r
  have hOpens := r.settled
  rw [hUnclosed, Option.elim_some,
    r.layout.settled_quote_iff filename] at hOpens
  have hRead := tokenize_of_settled filename r.layout hOpens.1
  have hSource :
      source.toList =
        r.layout.text ++ quote :: content.toList := by
    have hText := r.text_eq
    rw [hUnclosed] at hText
    exact hText
  have hTokens := Scanner.layout_tokens_append filename
    r.layout (quote :: content.toList)
  rw [← hSource] at hTokens
  rw [hTokens, hUnclosed, Option.map_some, hFront,
    String.length_toList, String.length_toList] at hDrain
  rw [hFront, String.ofList_toList] at hRead
  exact ⟨_, hRead, hDrain⟩

namespace Scanner

/- A scanner at its end stays there, however often it is read. -/
theorem iterate_next_of_rest_eq_nil
    {s : Scanner}
    (hRest : s.rest = [])
    (n : Nat) :
    (fun u : Scanner => u.next.2)^[n] s = s := by
  apply Function.iterate_fixed
  rw [next_of_rest_eq_nil hRest]

end Scanner

/-
  A text is refused if and only if it leaves a string open.
  The quote that opens it is then the only one to do so, and
  the error is at this quote. The tokens read before are those
  of the text in front of the quote, in their places. Nothing
  is left of the source, and no token is read from then on.
-/
theorem tokenize_refuses_iff
    (source filename : String)
    (mode : NumberMode) :
    ((∃ e, tokenize source filename mode = .error e) ↔
      ∃ front content,
        LeavesOpen source filename mode front content) ∧
    ∀ front content,
      LeavesOpen source filename mode front content →
        let all := (Scanner.ofText source filename mode).drain
        (∀ a b, LeavesOpen source filename mode a b →
          a = front ∧ b = content) ∧
        (∃ e,
          tokenize source filename mode = .error e ∧
            all.failure = some e ∧
            e.code = some "L002" ∧
            e.location =
              { filename := filename
                line := (front.toList.count '\n' + 1 : Nat)
                column :=
                  (front.length - lineStart front.toList + 1 :
                    Nat)
                offset := front.length }) ∧
        tokenize front filename mode = .ok all.tokens ∧
        all.scanner.position = source.length ∧
        ∀ n,
          ((fun s : Scanner => s.next.2)^[n]
            all.scanner).next.1 = .ok none := by
  constructor
  · rcases nonempty_reading mode source.toList with ⟨r⟩
    have hDrain := Scanner.drain_ofChars filename r
    constructor
    · rintro ⟨e, hError⟩
      rw [tokenize_eq_error_iff, Scanner.ofText, hDrain,
        Option.map_eq_some_iff] at hError
      rcases hError with ⟨content, hUnclosed, _⟩
      refine ⟨String.ofList r.layout.text,
        String.ofList content, leavesOpen_iff.mpr ⟨r, ?_, ?_⟩⟩
      · simpa using hUnclosed
      · simp
    · rintro ⟨front, content, hOpen⟩
      rcases hOpen.drain_eq with ⟨ts, _, hAll⟩
      exact ⟨_, tokenize_eq_error_iff.mpr
        (congrArg Drain.failure hAll)⟩
  · intro front content hOpen all
    rcases hOpen.drain_eq with ⟨ts, hRead, hAll⟩
    change all = _ at hAll
    have hTake :
        source.toList.take front.length = front.toList := by
      rw [hOpen.1, ← String.length_toList]
      simp
    have hEnd : all.scanner.rest = [] := by
      rw [hAll, Scanner.rest_advance, ← String.length_toList]
      exact List.drop_length
    refine ⟨?_, ⟨_, ?_, congrArg Drain.failure hAll, rfl, ?_⟩,
      ?_, ?_, ?_⟩
    · intro a b hOther
      exact hOpen.unique hOther
    · exact tokenize_eq_error_iff.mpr
        (congrArg Drain.failure hAll)
    · change (Scanner.ofText source filename mode).place
        front.length = _
      rw [Scanner.place_eq]
      simp only [Scanner.ofText, Scanner.ofChars, hTake]
    · rw [hAll]
      exact hRead
    · rw [hAll]
      exact Nat.zero_add _
    · intro n
      rw [Scanner.iterate_next_of_rest_eq_nil hEnd,
        Scanner.next_of_rest_eq_nil hEnd]

end MathScan
