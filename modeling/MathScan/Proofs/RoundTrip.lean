import MathScan.Proofs.Reading
import Mathlib.Data.List.Chain
import Mathlib.Data.List.Forall2

/-
  Tokens that are written down are read back. Between two of
  them there must be a blank only where the first would go on
  with the second: a name with a name or with a string, and a
  number with a number if numbers are read whole.

  Key definitions include:
    * `TokenKind.needsGap`
    * `Layout.Separated`
    * `Piece.spaced`

  The key statements are:
    * `Piece.settled_iff_isChain`
    * `tokenize_written_iff`
-/

------------------------------------------------------------
-- Tokens That Must Be Kept Apart
------------------------------------------------------------

namespace MathScan

namespace TokenKind

/-
  Whether a token of one kind goes on with a token of another
  kind that stands right behind it.
-/
def needsGap
    (mode : NumberMode) : TokenKind → TokenKind → Bool
  | .name, .name => true
  | .name, .string => true
  | .number, .number => mode == .greedy
  | _, _ => false

/-
  Whether a token goes on with the first character of another
  is a matter of their kinds.
-/
theorem goesOn_eq_needsGap
    (mode : NumberMode)
    (kind : TokenKind)
    {c : Char}
    (hBlank : Text.isBlank c = false) :
    kind.goesOn mode c = kind.needsGap mode (ofFirst c) := by
  by_cases hQuote : c = quote
  · subst hQuote
    rw [goesOn_quote]
    cases kind <;> rfl
  · by_cases hSymbol : isSymbol c = true
    · have hDigit := isDigit_of_isSymbol hSymbol
      cases kind <;>
        simp [goesOn, needsGap, ofFirst, hQuote, hSymbol,
          hDigit, continuesName]
    · by_cases hDigit : c.isDigit = true
      · cases kind <;>
          simp [goesOn, needsGap, ofFirst, hQuote, hSymbol,
            hDigit, continuesName]
      · cases kind <;>
          simp [goesOn, needsGap, ofFirst, hQuote, hSymbol,
            hDigit, continuesName, continuesRun, hBlank]

end TokenKind

/- Blanks stand wherever two tokens must be kept apart. -/
def Layout.Separated
    {mode : NumberMode}
    (layout : Layout mode) : Prop :=
  layout.pieces.IsChain fun p q =>
    p.token.kind.needsGap mode q.token.kind = true →
      q.gap ≠ []

namespace Piece

variable {mode : NumberMode}

/- Whether a token goes on with the piece behind it. -/
theorem endsBefore_piece_iff
    (t : Token)
    (q : Piece mode)
    (after : List Char) :
    t.EndsBefore mode (q.chars ++ after) ↔
      (t.kind.needsGap mode q.token.kind = true →
        q.gap ≠ []) := by
  by_cases hGap : q.gap = []
  · rcases q.token_wellFormed.exists_cons with
      ⟨c, more, hChars, hBlank, hKind⟩
    have hHead : (q.chars ++ after).head? = some c := by
      rw [chars, hGap, hChars]
      rfl
    rw [Token.EndsBefore, hHead, hKind,
      ← TokenKind.goesOn_eq_needsGap mode t.kind hBlank]
    simp [hGap]
  · rw [chars, List.append_assoc]
    constructor
    · intro _ _
      exact hGap
    · intro _
      exact endsBefore_of_blank t q.gap_blank hGap _

/-
  Pieces with blanks behind them are settled if blanks keep
  apart the tokens that must be.
-/
theorem settled_iff_isChain
    {gap : List Char}
    (hGap : Text.Blank gap)
    (ps : List (Piece mode)) :
    Settled gap ps ↔
      ps.IsChain fun p q =>
        p.token.kind.needsGap mode q.token.kind = true →
          q.gap ≠ [] := by
  induction ps with
  | nil => simp [Settled]
  | cons p ps ih =>
      rw [Settled, ih]
      cases ps with
      | nil =>
          have hEnds : p.token.EndsBefore mode gap := by
            intro c hHead
            exact TokenKind.goesOn_of_isBlank
              (hGap c (List.mem_of_mem_head? hHead))
          simp [hEnds]
      | cons q qs =>
          rw [text_cons, List.append_assoc,
            endsBefore_piece_iff, List.isChain_cons_cons]

end Piece

end MathScan

------------------------------------------------------------
-- Equal Tokens
------------------------------------------------------------

namespace MathScan

namespace Token

/- Equal tokens at the same places are the same tokens. -/
theorem eq_of_forall₂_same
    {mode : NumberMode}
    {ts us : List Token}
    (hFirst : ∀ t ∈ ts, t.WellFormed mode)
    (hSecond : ∀ u ∈ us, u.WellFormed mode)
    (hSame :
      List.Forall₂
        (fun t u => t.same u = true ∧ t.location = u.location)
        ts us) :
    ts = us := by
  induction hSame with
  | nil => rfl
  | @cons t u ts us hHead hRest ih =>
      have hEq : t = u :=
        (hFirst t (by simp)).eq_of_same
          (hSecond u (by simp)) hHead.1 hHead.2
      have hMore : ts = us :=
        ih (fun v hMem => hFirst v (by simp [hMem]))
          (fun v hMem => hSecond v (by simp [hMem]))
      rw [hEq, hMore]

end Token

/- The same tokens are equal wherever they are written. -/
theorem Piece.forall₂_same_tokens
    {mode : NumberMode}
    {place elsewhere : Nat → Location}
    {offset start : Nat}
    {ps qs : List (Piece mode)}
    (hTokens : ps.map Piece.token = qs.map Piece.token) :
    List.Forall₂ (fun t u => t.same u = true)
      (tokens place offset ps)
      (tokens elsewhere start qs) := by
  induction ps generalizing qs offset start with
  | nil =>
      rw [List.map_nil, eq_comm, List.map_eq_nil_iff]
        at hTokens
      subst hTokens
      exact .nil
  | cons p ps ih =>
      cases qs with
      | nil => simp at hTokens
      | cons q qs =>
          rw [List.map_cons, List.map_cons,
            List.cons.injEq] at hTokens
          refine .cons ?_ (ih hTokens.2)
          rw [hTokens.1]
          exact q.token_wellFormed.same_self

end MathScan

------------------------------------------------------------
-- Single Spaces
------------------------------------------------------------

namespace MathScan

namespace Piece

variable {mode : NumberMode}

/- The same token behind other blanks. -/
def withGap
    (gap : List Char)
    (hGap : Text.Blank gap)
    (p : Piece mode) : Piece mode :=
  ⟨gap, p.token, hGap, p.token_wellFormed⟩

/- The same token behind a single space. -/
def behindSpace
    (p : Piece mode) : Piece mode :=
  p.withGap [' '] (by decide)

/- The same tokens with a single space between any two. -/
def spaced : List (Piece mode) → List (Piece mode)
  | [] => []
  | p :: ps =>
    p.withGap [] (by decide) :: ps.map behindSpace

theorem map_token_spaced
    (ps : List (Piece mode)) :
    (spaced ps).map Piece.token = ps.map Piece.token := by
  cases ps with
  | nil => rfl
  | cons p ps =>
      rw [spaced, List.map_cons, List.map_map, List.map_cons]
      rfl

/- Single spaces keep all tokens apart. -/
theorem settled_spaced
    (ps : List (Piece mode)) :
    Settled [] (spaced ps) := by
  have hChain :
      ∀ (p : Piece mode) (qs : List (Piece mode)),
        (p :: qs.map behindSpace).IsChain fun p q =>
          p.token.kind.needsGap mode q.token.kind = true →
            q.gap ≠ [] := by
    intro p qs
    induction qs generalizing p with
    | nil => exact List.isChain_singleton p
    | cons q qs ih =>
        rw [List.map_cons, List.isChain_cons_cons]
        exact ⟨fun _ => List.cons_ne_nil ' ' [],
          ih q.behindSpace⟩
  have hNone : Text.Blank [] := by
    decide
  rw [settled_iff_isChain hNone]
  cases ps with
  | nil => exact List.isChain_nil
  | cons p ps => exact hChain _ ps

/- What tokens with single spaces between them are written as. -/
theorem ofList_text_spaced
    (ps : List (Piece mode)) :
    String.ofList (text (spaced ps)) =
      " ".intercalate (ps.map fun p => p.token.lexeme) := by
  have hFirst :
      ∀ (p : Piece mode) (qs : List (Piece mode)),
        " ".intercalate
            ((p :: qs).map fun p => p.token.lexeme) =
          String.ofList
            (p.token.chars ++ text (qs.map behindSpace)) := by
    intro p qs
    induction qs generalizing p with
    | nil => simp [Token.chars]
    | cons q qs ih =>
        have hMore := ih q
        rw [List.map_cons] at hMore
        rw [List.map_cons, List.map_cons,
          String.intercalate_cons_cons, hMore]
        apply String.toList_injective
        simp [Token.chars, chars, behindSpace, withGap]
  cases ps with
  | nil => rfl
  | cons p ps =>
      rw [hFirst]
      rfl

end Piece

end MathScan

------------------------------------------------------------
-- Writing and Reading
------------------------------------------------------------

namespace MathScan

variable {mode : NumberMode}

/-
  A layout is read as the tokens that it is written from,
  each at its own offset, if and only if blanks stand wherever
  two tokens must be kept apart. And whatever is read without
  an error can be written with single spaces and read again.
-/
theorem tokenize_written_iff
    (mode : NumberMode)
    (filename : String) :
    (∀ layout : Layout mode,
      (∃ ts,
        tokenize (String.ofList layout.text) filename mode =
          .ok ts ∧
        List.Forall₂
          (fun t u =>
            t.same u = true ∧ t.location = u.location)
          ts
          (layout.tokens
            (Scanner.ofChars layout.text filename mode).place)) ↔
        layout.Separated) ∧
    ∀ (source : String) (ts : List Token),
      tokenize source filename mode = .ok ts →
        ∃ us,
          tokenize (" ".intercalate (ts.map Token.lexeme))
              filename mode =
            .ok us ∧
          List.Forall₂ (fun u t => u.same t = true) us ts := by
  constructor
  · intro layout
    rw [Layout.Separated,
      ← Piece.settled_iff_isChain layout.gap_blank]
    constructor
    · rintro ⟨ts, hRead, hSame⟩
      rw [tokenize_eq_ok_iff, Scanner.ofText,
        String.toList_ofList] at hRead
      have hFirst : ∀ t ∈ ts, t.WellFormed mode := by
        intro t hMem
        rw [← hRead.2] at hMem
        exact Scanner.wellFormed_of_mem_drain hMem
      have hTokens :
          ts = layout.tokens
            (Scanner.ofChars layout.text filename mode).place :=
        Token.eq_of_forall₂_same hFirst
          (fun _ hMem => Piece.wellFormed_of_mem_tokens hMem)
          hSame
      apply Scanner.settled_of_tokens_prefix
        (s := Scanner.ofChars layout.text filename mode) rfl rfl
      rw [hRead.2, hTokens]
      exact List.prefix_rfl
    · intro hSettled
      refine ⟨_, tokenize_of_settled filename layout hSettled,
        ?_⟩
      apply List.forall₂_same.mpr
      intro t hMem
      exact ⟨(Piece.wellFormed_of_mem_tokens hMem).same_self,
        rfl⟩
  · intro source ts hRead
    rw [tokenize_eq_ok_iff, Scanner.ofText] at hRead
    rcases nonempty_reading mode source.toList with ⟨r⟩
    rw [Scanner.drain_ofChars filename r] at hRead
    rcases hRead with ⟨_, rfl⟩
    let layout : Layout mode :=
      ⟨Piece.spaced r.layout.pieces, [], by decide⟩
    have hRead := tokenize_of_settled filename layout
      (Piece.settled_spaced r.layout.pieces)
    have hText :
        String.ofList layout.text =
          " ".intercalate
            ((r.layout.tokens (Scanner.ofChars source.toList
              filename mode).place).map Token.lexeme) := by
      rw [Layout.text, List.append_nil,
        Piece.ofList_text_spaced, Layout.tokens,
        Piece.map_lexeme_tokens]
    rw [hText] at hRead
    exact ⟨_, hRead, Piece.forall₂_same_tokens
      (Piece.map_token_spaced r.layout.pieces)⟩

end MathScan
