import MathScan.Proofs.Reading

/-
  No character of a source is lost. The source, or what comes
  before the error in it, is made up of the lexemes in order
  and of the blanks between them; each token stands at its
  own lexeme, and the blanks alone belong to no token.

  Key definitions include:
    * `Token.Covers`

  The key statement is `Scanner.drain_partition`.
-/

------------------------------------------------------------
-- The Characters of a Token
------------------------------------------------------------

namespace MathScan

/- Whether a character of the source belongs to a token. -/
def Token.Covers
    (t : Token)
    (i : Nat) : Prop :=
  ∃ place ∈ t.location,
    place.offset ≤ i ∧ (i : Int) < place.offset + t.lexeme.length

@[simp] theorem Token.covers_placed
    (t : Token)
    (place : Location)
    (i : Nat) :
    (t.placed place).Covers i ↔
      place.offset ≤ i ∧
        (i : Int) < place.offset + t.lexeme.length := by
  simp [Covers, placed]

namespace Piece

variable {mode : NumberMode} {place : Nat → Location}

/-
  Each token of some pieces is placed where its lexeme stands
  in a text that holds them.
-/
theorem lexeme_of_mem_tokens
    (front : List Char)
    {after : List Char}
    {ps : List (Piece mode)}
    {t : Token}
    (hMem : t ∈ tokens place front.length ps) :
    ∃ i, t.location = some (place i) ∧
      ((front ++ text ps ++ after).drop i).take
          t.lexeme.length =
        t.lexeme.toList := by
  induction ps generalizing front with
  | nil => exact absurd hMem List.not_mem_nil
  | cons p ps ih =>
      rcases List.mem_cons.mp hMem with rfl | hLater
      · refine ⟨front.length + p.gap.length, rfl, ?_⟩
        have hText :
            front ++ text (p :: ps) ++ after =
              (front ++ p.gap) ++
                (p.token.chars ++ (text ps ++ after)) := by
          simp [chars, List.append_assoc]
        rw [hText, ← List.length_append, List.drop_left,
          Token.lexeme_placed, ← Token.length_chars,
          List.take_left]
        rfl
      · rw [← List.length_append] at hLater
        have hText :
            front ++ text (p :: ps) ++ after =
              front ++ p.chars ++ text ps ++ after := by
          simp [List.append_assoc]
        rw [hText]
        exact ih _ hLater

/- No token of pieces covers what comes before them. -/
theorem le_of_covers
    (hPlace : ∀ n, (place n).offset = n)
    {offset i : Nat}
    {ps : List (Piece mode)}
    {t : Token}
    (hMem : t ∈ tokens place offset ps)
    (hCovers : t.Covers i) :
    offset ≤ i := by
  induction ps generalizing offset with
  | nil => exact absurd hMem List.not_mem_nil
  | cons p ps ih =>
      rcases List.mem_cons.mp hMem with rfl | hLater
      · rw [Token.covers_placed, hPlace] at hCovers
        omega
      · have hBehind := ih hLater
        omega

/- No character belongs to two tokens. -/
theorem pairwise_tokens
    (hPlace : ∀ n, (place n).offset = n)
    (offset : Nat)
    (ps : List (Piece mode)) :
    (tokens place offset ps).Pairwise
      (fun t u => ∀ i, t.Covers i → ¬ u.Covers i) := by
  induction ps generalizing offset with
  | nil => exact List.Pairwise.nil
  | cons p ps ih =>
      apply List.pairwise_cons.mpr
      refine ⟨?_, ih _⟩
      intro u hLater i hFirst hSecond
      have hBehind := le_of_covers hPlace hLater hSecond
      have hLength := p.length_chars
      rw [Token.covers_placed, hPlace] at hFirst
      omega

/- Each character that is no blank belongs to a token. -/
theorem exists_covers
    (hPlace : ∀ n, (place n).offset = n)
    {offset i : Nat}
    {ps : List (Piece mode)}
    {c : Char}
    (hChar : (text ps)[i]? = some c)
    (hBlank : Text.isBlank c = false) :
    ∃ t ∈ tokens place offset ps, t.Covers (offset + i) := by
  induction ps generalizing offset i with
  | nil => simp at hChar
  | cons p ps ih =>
      have hLength := p.length_chars
      by_cases hGap : i < p.gap.length
      · -- a character of the gap is blank
        have hInGap : c ∈ p.gap := by
          rw [text_cons, chars, List.append_assoc,
            List.getElem?_append_left hGap] at hChar
          exact List.mem_of_getElem? hChar
        rw [p.gap_blank c hInGap] at hBlank
        exact Bool.noConfusion hBlank
      · by_cases hToken : i < p.chars.length
        · refine ⟨_, List.mem_cons_self, ?_⟩
          rw [Token.covers_placed, hPlace]
          omega
        · rw [text_cons, List.getElem?_append_right
            (Nat.le_of_not_lt hToken)] at hChar
          have hIndex :
              offset + i =
                offset + p.chars.length +
                  (i - p.chars.length) := by
            omega
          have hLater :
              ∃ t ∈ tokens place (offset + p.chars.length) ps,
                t.Covers (offset + i) := by
            rw [hIndex]
            exact ih hChar
          rcases hLater with ⟨t, hMem, hCovers⟩
          exact ⟨t, List.mem_cons_of_mem _ hMem, hCovers⟩

end Piece

/- The same holds in a layout, whose last blanks are blanks. -/
theorem Layout.exists_covers
    {mode : NumberMode}
    {place : Nat → Location}
    (hPlace : ∀ n, (place n).offset = n)
    (layout : Layout mode)
    {i : Nat}
    {c : Char}
    (hChar : layout.text[i]? = some c)
    (hBlank : Text.isBlank c = false) :
    ∃ t ∈ layout.tokens place, t.Covers i := by
  rw [text] at hChar
  by_cases hPieces : i < (Piece.text layout.pieces).length
  · rw [List.getElem?_append_left hPieces] at hChar
    have hCovered :
        ∃ t ∈ layout.tokens place, t.Covers (0 + i) :=
      Piece.exists_covers hPlace hChar hBlank
    rw [Nat.zero_add] at hCovered
    exact hCovered
  · -- behind the last piece there are only blanks
    rw [List.getElem?_append_right
      (Nat.le_of_not_lt hPieces)] at hChar
    rw [layout.gap_blank c (List.mem_of_getElem? hChar)]
      at hBlank
    exact Bool.noConfusion hBlank

end MathScan

------------------------------------------------------------
-- The Source and Its Tokens
------------------------------------------------------------

namespace MathScan

namespace Scanner

/-
  A drain parts its source into lexemes and blanks: all of it
  if there is no error, and else what comes before the error,
  which is at a quote with no other quote behind it.
  Every token is well-formed and stands at its own lexeme, no
  character belongs to two tokens, and each one that is no
  blank belongs to a token.
-/
theorem drain_partition
    (source : List Char)
    (filename : String)
    (mode : NumberMode) :
    let s := ofChars source filename mode
    ∃ (layout : Layout mode) (stop : Nat),
      (match s.drain.failure with
        | none => stop = source.length
        | some e => stop < source.length ∧
            e.location = s.place stop ∧
            ∃ content, source.drop stop = quote :: content ∧
              quote ∉ content) ∧
      source.take stop = layout.text ∧
      s.drain.tokens = layout.tokens s.place ∧
      (∀ t ∈ s.drain.tokens, t.WellFormed mode ∧
        ∃ i : Nat, t.location = some (s.place i) ∧
          (source.drop i).take t.lexeme.length =
            t.lexeme.toList) ∧
      s.drain.tokens.Pairwise
        (fun t u => ∀ i, t.Covers i → ¬ u.Covers i) ∧
      ∀ (i : Nat) (c : Char), i < stop →
        source[i]? = some c → Text.isBlank c = false →
          ∃ t ∈ s.drain.tokens, t.Covers i := by
  intro s
  rcases nonempty_reading mode source with ⟨r⟩
  have hDrain := drain_ofChars filename r
  have hTokens :
      s.drain.tokens = r.layout.tokens s.place :=
    congrArg Drain.tokens hDrain
  have hTake :
      source.take r.layout.text.length = r.layout.text :=
    (congrArg (List.take r.layout.text.length)
      r.text_eq).trans List.take_left
  refine ⟨r.layout, r.layout.text.length, ?_, hTake, hTokens,
    ?_, ?_, ?_⟩
  · have hLength := congrArg List.length r.text_eq
    have hFailure : s.drain.failure = r.unclosed.map _ :=
      congrArg Drain.failure hDrain
    rw [hFailure]
    cases hUnclosed : r.unclosed with
    | none =>
        rw [hUnclosed, Option.elim_none,
          List.append_nil] at hLength
        exact hLength.symm
    | some content =>
        rw [hUnclosed, Option.elim_some, List.length_append,
          List.length_cons] at hLength
        have hText := r.text_eq
        rw [hUnclosed, Option.elim_some] at hText
        refine ⟨by omega, rfl, content, ?_,
          r.unclosed_quote content hUnclosed⟩
        exact
          (congrArg (List.drop r.layout.text.length) hText).trans
            List.drop_left
  · intro t hMem
    refine ⟨wellFormed_of_mem_drain hMem, ?_⟩
    rw [hTokens] at hMem
    have hText := r.text_eq
    rw [Layout.text, List.append_assoc] at hText
    rw [hText]
    exact Piece.lexeme_of_mem_tokens [] hMem
  · rw [hTokens]
    exact Piece.pairwise_tokens (offset_place s) 0
      r.layout.pieces
  · intro i c hBefore hChar hBlank
    rw [← List.getElem?_take_of_lt hBefore, hTake] at hChar
    rw [hTokens]
    exact r.layout.exists_covers (offset_place s) hChar hBlank

end Scanner

end MathScan
