import MathScan.Proofs.Lines
import MathScan.Proofs.WellFormed

/-
  Layouts: program texts as tokens in a row, with blanks in
  front of each token and behind the last one.

  Key definitions include:
    * `Piece`
    * `Piece.text`
    * `Piece.tokens`
    * `Piece.Settled`
    * `Layout`
    * `Token.EndsAt`

  The key statements are:
    * `Piece.tokens_after`
    * `Layout.settled_append_iff`
-/

------------------------------------------------------------
-- Pieces of a Text
------------------------------------------------------------

namespace MathScan

/- A token with the blanks in front of it. -/
structure Piece
    (mode : NumberMode) where
  gap : List Char
  token : Token
  gap_blank : Text.Blank gap
  token_wellFormed : token.WellFormed mode

namespace Piece

variable {mode : NumberMode}

def chars
    (p : Piece mode) : List Char :=
  p.gap ++ p.token.chars

def text
    (ps : List (Piece mode)) : List Char :=
  ps.flatMap chars

/-
  The tokens of pieces in a row, each at the place of the
  offset where it is written. The first piece is written at
  a given offset.
-/
def tokens
    (place : Nat → Location)
    (offset : Nat) : List (Piece mode) → List Token
  | [] => []
  | p :: ps =>
    p.token.placed (place (offset + p.gap.length)) ::
      tokens place (offset + p.chars.length) ps

/-
  No token of pieces in a row goes on with the text behind
  it, where a given text follows the last of them.
-/
def Settled
    (after : List Char) : List (Piece mode) → Prop
  | [] => True
  | p :: ps =>
    p.token.EndsBefore mode (text ps ++ after) ∧
      Settled after ps

@[simp] theorem text_nil :
    text ([] : List (Piece mode)) = [] := rfl

@[simp] theorem text_cons
    (p : Piece mode)
    (ps : List (Piece mode)) :
    text (p :: ps) = p.chars ++ text ps := rfl

@[simp] theorem text_append
    (ps qs : List (Piece mode)) :
    text (ps ++ qs) = text ps ++ text qs :=
  List.flatMap_append

theorem chars_ne_nil
    (p : Piece mode) :
    p.chars ≠ [] := by
  intro hNil
  exact p.token_wellFormed.chars_ne_nil
    (List.append_eq_nil_iff.mp hNil).2

theorem length_chars
    (p : Piece mode) :
    p.chars.length = p.gap.length + p.token.lexeme.length := by
  rw [chars, List.length_append, Token.length_chars]

theorem text_eq_nil_iff
    {ps : List (Piece mode)} :
    text ps = [] ↔ ps = [] := by
  cases ps with
  | nil => simp
  | cons p ps => simp [p.chars_ne_nil]

------------------------------------------------------------
-- Tokens of Pieces
------------------------------------------------------------

variable {place : Nat → Location} {offset : Nat}

theorem tokens_append
    (ps qs : List (Piece mode)) :
    tokens place offset (ps ++ qs) =
      tokens place offset ps ++
        tokens place (offset + (text ps).length) qs := by
  induction ps generalizing offset with
  | nil => simp [tokens]
  | cons p ps ih =>
      simp only [List.cons_append, tokens, text_cons,
        List.length_append, ih, Nat.add_assoc]

/- The lexemes of pieces are those of their tokens. -/
theorem map_lexeme_tokens
    (ps : List (Piece mode)) :
    (tokens place offset ps).map Token.lexeme =
      ps.map fun p => p.token.lexeme := by
  induction ps generalizing offset with
  | nil => rfl
  | cons p ps ih =>
      rw [tokens, List.map_cons, List.map_cons, ih]
      rfl

/- Each token of pieces has a place, that of some offset. -/
theorem location_of_mem_tokens
    {ps : List (Piece mode)}
    {t : Token}
    (hMem : t ∈ tokens place offset ps) :
    ∃ n, t.location = some (place n) := by
  induction ps generalizing offset with
  | nil => exact absurd hMem List.not_mem_nil
  | cons p ps ih =>
      rcases List.mem_cons.mp hMem with rfl | hLater
      · exact ⟨offset + p.gap.length, rfl⟩
      · exact ih hLater

/- Tokens are placed by the places within their text alone. -/
theorem tokens_congr
    {elsewhere : Nat → Location}
    {ps : List (Piece mode)}
    (hPlaces :
      ∀ n < offset + (text ps).length, place n = elsewhere n) :
    tokens place offset ps = tokens elsewhere offset ps := by
  induction ps generalizing offset with
  | nil => rfl
  | cons p ps ih =>
      have hLength := p.length_chars
      have hNonempty :=
        List.length_pos_iff.mpr p.token_wellFormed.chars_ne_nil
      rw [Token.length_chars] at hNonempty
      rw [text_cons, List.length_append] at hPlaces
      have hHead := hPlaces (offset + p.gap.length) (by omega)
      have hRest : tokens place (offset + p.chars.length) ps =
          tokens elsewhere (offset + p.chars.length) ps := by
        apply ih
        intro n hWithin
        exact hPlaces n (by omega)
      rw [tokens, tokens, hHead, hRest]

/- All tokens of pieces are well-formed. -/
theorem wellFormed_of_mem_tokens
    {ps : List (Piece mode)}
    {t : Token}
    (hMem : t ∈ tokens place offset ps) :
    t.WellFormed mode := by
  induction ps generalizing offset with
  | nil => exact absurd hMem List.not_mem_nil
  | cons p ps ih =>
      rcases List.mem_cons.mp hMem with rfl | hLater
      · exact p.token_wellFormed.placed _
      · exact ih hLater

/- The last token stands at the end of its text. -/
theorem getLast?_tokens_concat
    (ps : List (Piece mode))
    (p : Piece mode) :
    (tokens place offset (ps ++ [p])).getLast? =
      some (p.token.placed
        (place
          (offset + (text ps).length + p.gap.length))) := by
  simp [tokens_append, tokens]

end Piece

/- A token of a text, where the text stands behind another. -/
def Token.after
    (before : List Char)
    (t : Token) : Token :=
  { t with location := t.location.map (Location.after before) }

/- Pieces behind another text have all their tokens moved. -/
theorem Piece.tokens_after
    {mode : NumberMode}
    {place moved : Nat → Location}
    {before : List Char}
    (hMoved :
      ∀ n, moved (before.length + n) = (place n).after before)
    (offset : Nat)
    (ps : List (Piece mode)) :
    tokens moved (before.length + offset) ps =
      (tokens place offset ps).map (Token.after before) := by
  induction ps generalizing offset with
  | nil => rfl
  | cons p ps ih =>
      have hRest := ih (offset + p.chars.length)
      rw [← Nat.add_assoc] at hRest
      rw [tokens, tokens, List.map_cons, hRest, Nat.add_assoc,
        hMoved]
      rfl

end MathScan

------------------------------------------------------------
-- Settled Pieces
------------------------------------------------------------

namespace MathScan

namespace Piece

variable {mode : NumberMode}

/- Whether a token ends is seen from the next character. -/
theorem endsBefore_append_iff
    (t : Token)
    {front : List Char}
    (hNonempty : front ≠ [])
    (more : List Char) :
    t.EndsBefore mode (front ++ more) ↔
      t.EndsBefore mode front := by
  rcases List.exists_cons_of_ne_nil hNonempty with
    ⟨c, rest, rfl⟩
  rfl

/- A token ends before blanks. -/
theorem endsBefore_of_blank
    (t : Token)
    {gap : List Char}
    (hGap : Text.Blank gap)
    (hNonempty : gap ≠ [])
    (more : List Char) :
    t.EndsBefore mode (gap ++ more) := by
  rw [endsBefore_append_iff t hNonempty]
  intro c hHead
  exact TokenKind.goesOn_of_isBlank
    (hGap c (List.mem_of_mem_head? hHead))

/-
  A text put behind settled pieces matters to none but the
  last of them, and only if nothing stood there before.
-/
theorem settled_append_iff
    (ps : List (Piece mode))
    (after more : List Char) :
    Settled (after ++ more) ps ↔
      Settled after ps ∧
        (after = [] → ∀ p ∈ ps.getLast?,
          p.token.EndsBefore mode more) := by
  induction ps with
  | nil => simp [Settled]
  | cons p ps ih =>
      rw [Settled, Settled, ih, ← List.append_assoc]
      by_cases hAlone : text ps ++ after = []
      · rcases List.append_eq_nil_iff.mp hAlone with
          ⟨hText, hAfter⟩
        rcases text_eq_nil_iff.mp hText with rfl
        subst hAfter
        have hEnds : p.token.EndsBefore mode [] := by
          simp [Token.EndsBefore]
        simp [Settled, hEnds]
      · rw [endsBefore_append_iff p.token hAlone]
        by_cases hAfter : after = []
        · have hSome : ps ≠ [] := by
            rintro rfl
            simp [hAfter] at hAlone
          rw [List.getLast?_cons_of_ne_nil hSome]
          constructor
          · rintro ⟨hEnds, hSettled, hLast⟩
            exact ⟨⟨hEnds, hSettled⟩, hLast⟩
          · rintro ⟨⟨hEnds, hSettled⟩, hLast⟩
            exact ⟨hEnds, hSettled, hLast⟩
        · simp [hAfter]

end Piece

end MathScan

------------------------------------------------------------
-- Layouts
------------------------------------------------------------

namespace MathScan

/- Pieces in a row, with blanks behind the last of them. -/
structure Layout
    (mode : NumberMode) where
  pieces : List (Piece mode)
  gap : List Char
  gap_blank : Text.Blank gap

namespace Layout

variable {mode : NumberMode}

def text
    (layout : Layout mode) : List Char :=
  Piece.text layout.pieces ++ layout.gap

/- The tokens of a layout, placed within its text. -/
def tokens
    (place : Nat → Location)
    (layout : Layout mode) : List Token :=
  Piece.tokens place 0 layout.pieces

end Layout

/- Whether a token ends at an offset of its source. -/
def Token.EndsAt
    (t : Token)
    (offset : Nat) : Prop :=
  ∃ place ∈ t.location,
    place.offset + t.lexeme.length = (offset : Int)

@[simp] theorem Token.endsAt_placed
    (t : Token)
    (place : Location)
    (offset : Nat) :
    (t.placed place).EndsAt offset ↔
      place.offset + t.lexeme.length = (offset : Int) := by
  simp [EndsAt, placed]

/-
  A text put behind a settled layout leaves it settled, unless
  the last token stands at the very end and goes on with it.
-/
theorem Layout.settled_append_iff
    {mode : NumberMode}
    {place : Nat → Location}
    (hPlace : ∀ n, (place n).offset = n)
    (layout : Layout mode)
    (more : List Char) :
    Piece.Settled (layout.gap ++ more) layout.pieces ↔
      Piece.Settled layout.gap layout.pieces ∧
        ∀ t ∈ (layout.tokens place).getLast?,
          t.EndsAt layout.text.length →
            t.EndsBefore mode more := by
  rcases layout with ⟨ps, gap, hGap⟩
  rw [Piece.settled_append_iff, tokens, text]
  rcases List.eq_nil_or_concat ps with
    rfl | ⟨front, p, hPieces⟩
  · simp [Piece.tokens]
  · rw [List.concat_eq_append] at hPieces
    subst hPieces
    have hLength := p.length_chars
    have hEndsAt :
        (p.token.placed
            (place
              (0 + (Piece.text front).length +
                p.gap.length))).EndsAt
            (Piece.text (front ++ [p]) ++ gap).length ↔
          gap = [] := by
      rw [← List.length_eq_zero_iff, Token.endsAt_placed,
        hPlace]
      simp only [Piece.text_append, Piece.text_cons,
        Piece.text_nil, List.append_nil, List.length_append]
      omega
    simp only [Piece.getLast?_tokens_concat,
      List.getLast?_concat, Option.mem_some, forall_eq',
      hEndsAt]
    rfl

end MathScan
