import MathScan.Proofs.Reading

/-
  Numbers read whole, and digit by digit. Both modes read the
  same text in the same way but for the width of numbers, and
  so do all mixtures of the two: where each number is split
  into its digits, the tokens are those that are read digit
  by digit.

  Key definitions include:
    * `Location.along`
    * `Token.ofDigit`
    * `Token.digits`
    * `Scanner.drainBy`
    * `Drain.SplitsInto`

  The key statements are:
    * `Scanner.drain_piece_digits`
    * `Scanner.drainBy_splitsInto`
    * `drain_greedy_splitsInto`
-/

------------------------------------------------------------
-- The Digits of a Number
------------------------------------------------------------

namespace MathScan

/- The location some characters further on in its line. -/
def Location.along
    (place : Location)
    (n : Nat) : Location :=
  { place with
    column := place.column + n
    offset := place.offset + n }

namespace Token

/- The number that is a single digit. -/
def ofDigit
    (d : Char)
    (place : Option Location) : Token :=
  .ofNumber (.ofNat (d.toNat - '0'.toNat))
    (String.singleton d) place

/-
  A token with every number split into its digits. Each of
  them stands one character behind the one before it.
-/
def digits
    (t : Token) : List Token :=
  match t.kind with
  | .number =>
    t.chars.mapIdx fun i d =>
      ofDigit d (t.location.map fun place => place.along i)
  | _ => [t]

variable {mode : NumberMode} {t : Token}

/- Only numbers are split. -/
theorem digits_of_kind_ne
    (hKind : t.kind ≠ .number) :
    t.digits = [t] := by
  unfold digits
  split
  · rename_i hNumber
    exact absurd hNumber hKind
  · rfl

/- A number that has a place is split along its line. -/
theorem digits_placed
    (hKind : t.kind = .number)
    (place : Location) :
    (t.placed place).digits =
      t.chars.mapIdx fun i d =>
        ofDigit d (some (place.along i)) := by
  unfold digits
  simp only [kind_placed, hKind, chars_placed]
  rfl

/- A digit is a number in either mode. -/
theorem wellFormed_ofDigit
    (mode : NumberMode)
    {d : Char}
    (hDigit : d.isDigit = true)
    (place : Option Location) :
    (ofDigit d place).WellFormed mode := by
  have hDigits : ∀ c ∈ [d], c.isDigit = true := by
    simpa using hDigit
  have hRead :=
    Double.read?_digits (List.cons_ne_nil d []) hDigits
  have hValue :
      Nat.ofDigitChars 10 [d] 0 = d.toNat - '0'.toNat := by
    simp [Nat.ofDigitChars]
  rw [hValue] at hRead
  have hNumber : (ofNumber _ _ place).WellFormed mode :=
    .number (List.cons_ne_nil d []) hDigits (fun _ => rfl) hRead
  exact hNumber

theorem chars_ofDigit
    (d : Char)
    (place : Option Location) :
    (ofDigit d place).chars = [d] := by
  simp [chars, ofDigit, ofNumber]

theorem WellFormed.isDigit_of_mem
    (hToken : t.WellFormed mode)
    (hKind : t.kind = .number) :
    ∀ d ∈ t.chars, d.isDigit = true := by
  cases hToken with
  | symbol hSymbol => cases hKind
  | name hNonempty hBlank hSymbol hDigit hQuote => cases hKind
  | string hContent => cases hKind
  | @number ds x place hNonempty hDigits hWidth hValue =>
      rw [chars_ofNumber]
      exact hDigits

/- What is no number is the same in either mode. -/
theorem WellFormed.of_kind_ne
    (hToken : t.WellFormed mode)
    (hKind : t.kind ≠ .number)
    (other : NumberMode) :
    t.WellFormed other := by
  cases hToken with
  | symbol hSymbol => exact .symbol hSymbol
  | number hNonempty hDigits hWidth hValue =>
      exact absurd rfl hKind
  | name hNonempty hBlank hSymbol hDigit hQuote =>
      exact .name hNonempty hBlank hSymbol hDigit hQuote
  | string hContent => exact .string hContent

/- What is no number ends alike in either mode. -/
theorem EndsBefore.of_kind_ne
    {after : List Char}
    (hEnds : t.EndsBefore mode after)
    (hKind : t.kind ≠ .number)
    (other : NumberMode) :
    t.EndsBefore other after := by
  intro c hHead
  have hStops := hEnds c hHead
  cases hOwn : t.kind with
  | symbol => rfl
  | string => rfl
  | number => exact absurd hOwn hKind
  | name =>
      rw [hOwn] at hStops
      exact hStops

end Token

end MathScan

------------------------------------------------------------
-- Draining Digits
------------------------------------------------------------

namespace MathScan

namespace Scanner

variable {s : Scanner}

/- Along a line, only the column and the offset grow. -/
theorem place_add
    (s : Scanner)
    {offset n : Nat}
    (hFeed : '\n' ∉ (s.source.drop offset).take n) :
    s.place (offset + n) = (s.place offset).along n := by
  have hTake :
      s.source.take (offset + n) =
        s.source.take offset ++
          (s.source.drop offset).take n :=
    List.take_add
  have hCount :
      ((s.source.drop offset).take n).count '\n' = 0 :=
    List.count_eq_zero.mpr hFeed
  have hStart :
      lineStart (s.source.take offset) ≤ offset :=
    (lineStart_le _).trans (List.length_take_le _ _)
  rw [place_eq, place_eq, hTake, List.count_append,
    lineStart_append, if_neg hFeed, hCount]
  simp only [Location.along, Location.mk.injEq, true_and]
  omega

/-
  Digits at the cursor are read one by one in the mode of
  single digits.
-/
theorem drain_digits
    (hMode : s.mode = .singleDigit)
    {ds after : List Char}
    (hRest : s.rest = ds ++ after)
    (hDigits : ∀ d ∈ ds, d.isDigit = true) :
    s.drain =
      { (s.advance ds.length).drain with
        tokens :=
          (ds.mapIdx fun i d =>
              Token.ofDigit d (some (s.place (s.position + i)))) ++
            (s.advance ds.length).drain.tokens } := by
  induction ds generalizing s with
  | nil => simp [advance_zero]
  | cons d ds ih =>
      have hDigit : d.isDigit = true := hDigits d (by simp)
      let p : Piece .singleDigit :=
        { gap := []
          token := Token.ofDigit d none
          gap_blank := List.forall_mem_nil _
          token_wellFormed :=
            Token.wellFormed_ofDigit .singleDigit hDigit none }
      have hChars : p.chars = [d] :=
        Token.chars_ofDigit d none
      have hEnds :
          p.token.EndsBefore .singleDigit (ds ++ after) :=
        fun _ _ => rfl
      have hNext := next_piece hMode p (hRest.trans
        (congrArg (· ++ (ds ++ after)) hChars.symm)) hEnds
      have hMore := ih (s := s.advance 1) hMode
        (by rw [rest_advance, hRest]; rfl)
        (fun c hMem => hDigits c (by simp [hMem]))
      have hPlaces (i : Nat) :
          (s.advance 1).place ((s.advance 1).position + i) =
            s.place (s.position + (i + 1)) := by
        rw [position_advance, Nat.add_assoc, Nat.add_comm 1]
        rfl
      rw [hChars] at hNext
      simp only [hPlaces] at hMore
      rw [drain_of_next_token hNext, List.length_singleton,
        hMore, advance_advance, List.mapIdx_cons,
        List.length_cons, Nat.add_comm 1]
      rfl

/-
  Where a piece is read in some mode, a drain in the mode of
  single digits gives the digits of its token, in their
  places, and goes on behind the piece.
-/
theorem drain_piece_digits
    (hMode : s.mode = .singleDigit)
    {mode : NumberMode}
    (p : Piece mode)
    {after : List Char}
    (hRest : s.rest = p.chars ++ after)
    (hEnds : p.token.EndsBefore mode after) :
    s.drain =
      { (s.advance p.chars.length).drain with
        tokens :=
          (p.token.placed
              (s.place (s.position + p.gap.length))).digits ++
            (s.advance p.chars.length).drain.tokens } := by
  by_cases hKind : p.token.kind = .number
  · have hDigits := p.token_wellFormed.isDigit_of_mem hKind
    have hSplit :
        s.rest = p.gap ++ (p.token.chars ++ after) := by
      rw [hRest, Piece.chars, List.append_assoc]
    have hAtToken :
        (s.advance p.gap.length).rest =
          p.token.chars ++ after := by
      rw [rest_advance, hSplit, List.drop_left]
    -- no digit ends the line, so the places stay on it
    have hPlaces : ∀ i < p.token.chars.length,
        s.place (s.position + p.gap.length + i) =
          (s.place (s.position + p.gap.length)).along i := by
      intro i hWithin
      apply place_add
      rw [← List.drop_drop, ← s.rest_eq, hSplit,
        List.drop_left,
        List.take_append_of_le_length hWithin.le]
      intro hFeed
      have hDigit := hDigits _ (List.mem_of_mem_take hFeed)
      exact absurd hDigit (by decide)
    have hWidth :
        (s.advance p.gap.length).advance p.token.chars.length =
          s.advance p.chars.length := by
      rw [advance_advance, Piece.chars, List.length_append]
    have hTokens :
        (p.token.chars.mapIdx fun i d =>
            Token.ofDigit d (some
              (s.place (s.position + p.gap.length + i)))) =
          (p.token.placed
            (s.place (s.position + p.gap.length))).digits := by
      rw [Token.digits_placed hKind]
      apply List.ext_getElem
      · simp
      · intro i hLeft hRight
        rw [List.length_mapIdx] at hLeft
        rw [List.getElem_mapIdx, List.getElem_mapIdx,
          hPlaces i hLeft]
    rw [drain_gap hSplit p.gap_blank,
      drain_digits (s := s.advance p.gap.length) hMode hAtToken
        hDigits,
      hWidth, ← hTokens]
    rfl
  · let q : Piece .singleDigit :=
      { gap := p.gap
        token := p.token
        gap_blank := p.gap_blank
        token_wellFormed :=
          p.token_wellFormed.of_kind_ne hKind .singleDigit }
    have hNext := next_piece hMode q hRest
      (hEnds.of_kind_ne hKind .singleDigit)
    have hAlone :
        (p.token.placed
            (s.place (s.position + p.gap.length))).digits =
          [p.token.placed
            (s.place (s.position + p.gap.length))] :=
      Token.digits_of_kind_ne hKind
    rw [drain_of_next_token hNext, hAlone]
    rfl

end Scanner

end MathScan

------------------------------------------------------------
-- Schedules of Modes
------------------------------------------------------------

namespace MathScan

namespace Scanner

/-
  Reads until there is no token or an error. Before each read
  the scanner is given the next mode of a schedule.
-/
def drainBy
    (s : Scanner)
    (modes : Nat → NumberMode) : Drain :=
  match hNext : (s.setMode (modes 0)).next.1 with
  | .error e => ⟨[], some e, (s.setMode (modes 0)).next.2⟩
  | .ok none => ⟨[], none, (s.setMode (modes 0)).next.2⟩
  | .ok (some t) =>
    have := length_rest_next (s.setMode (modes 0)) hNext
    let more :=
      (s.setMode (modes 0)).next.2.drainBy
        fun n => modes (n + 1)
    { more with tokens := t :: more.tokens }
termination_by s.rest.length
decreasing_by exact this

/- A drain by a schedule, from the answer to its first read. -/
theorem drainBy_eq
    (s : Scanner)
    (modes : Nat → NumberMode) :
    s.drainBy modes =
      match (s.setMode (modes 0)).next.1 with
      | .error e => ⟨[], some e, (s.setMode (modes 0)).next.2⟩
      | .ok none => ⟨[], none, (s.setMode (modes 0)).next.2⟩
      | .ok (some t) =>
        let more :=
          (s.setMode (modes 0)).next.2.drainBy
            fun n => modes (n + 1)
        { more with tokens := t :: more.tokens } := by
  rw [drainBy]
  split
  · rename_i e hAnswer
    simp only [hAnswer]
  · rename_i hAnswer
    simp only [hAnswer]
  · rename_i t hAnswer
    simp only [hAnswer]

/- A drain keeps to the mode of its scanner. -/
theorem drain_eq_drainBy
    (s : Scanner) :
    s.drain = s.drainBy fun _ => s.mode := by
  induction hLength : s.rest.length using
    Nat.strong_induction_on generalizing s with
  | _ length ih =>
      have hSame : s.setMode s.mode = s := rfl
      have hOutcome := s.next_outcome
      rw [drainBy_eq, hSame]
      generalize hNext : s.next = reply at hOutcome ⊢
      cases hOutcome with
      | nothing hBlank => exact drain_of_next_none hNext
      | unclosed => exact drain_of_next_error hNext
      | @token t n hWidth =>
          have hShorter : (s.advance n).rest.length < length := by
            have hLess := s.length_rest_next (t := t)
            rw [hNext, hLength] at hLess
            exact hLess rfl
          have hMore : (s.advance n).drain = _ :=
            ih _ hShorter (s.advance n) rfl
          rw [drain_of_next_token hNext, hMore]
          rfl

end Scanner

/-
  Whether a drain differs from another one only by numbers
  that are read whole: it has the tokens of the other where
  numbers are split into digits, the same error, and the same
  place of the cursor in the end.
-/
structure Drain.SplitsInto
    (coarse fine : Drain) : Prop where
  tokens_eq :
    fine.tokens = coarse.tokens.flatMap Token.digits
  failure_eq : fine.failure = coarse.failure
  position_eq :
    fine.scanner.position = coarse.scanner.position

namespace Scanner

/-
  Whatever modes a scanner is given between its reads, it
  reads what it reads in the mode of single digits, but for
  the numbers that are read whole.
-/
theorem drainBy_splitsInto
    (s : Scanner)
    (modes : Nat → NumberMode) :
    (s.drainBy modes).SplitsInto
      (s.setMode .singleDigit).drain := by
  -- on the length, since a number in one mode is many in the other
  induction hLength : s.rest.length using
    Nat.strong_induction_on generalizing s modes with
  | _ length ih =>
      have hFront := front (modes 0) s.rest
      generalize hRest : s.rest = cs at hFront
      rw [drainBy_eq]
      cases hFront with
      | blank hGap =>
          have hBlank (mode : NumberMode) :
              Text.Blank (s.setMode mode).rest := by
            change Text.Blank s.rest
            rw [hRest]
            exact hGap
          rw [next_blank (hBlank (modes 0)),
            drain_of_next_none
              (next_blank (hBlank .singleDigit))]
          exact ⟨rfl, rfl, rfl⟩
      | unclosed hGap hContent =>
          have hNext (mode : NumberMode) :=
            next_unclosed (s := s.setMode mode) hRest hGap
              hContent
          rw [hNext (modes 0),
            drain_of_next_error (hNext .singleDigit)]
          exact ⟨rfl, rfl, rfl⟩
      | @piece p after hEnds =>
          have hNext :=
            next_piece (s := s.setMode (modes 0)) rfl p hRest
              hEnds
          have hShorter :
              (s.advance p.chars.length).rest.length < length := by
            have hSome :=
              List.length_pos_iff.mpr p.chars_ne_nil
            rw [rest_advance, List.length_drop, hLength]
            rw [hRest, List.length_append] at hLength
            omega
          have hMore :=
            ih _ hShorter
              ((s.setMode (modes 0)).advance p.chars.length)
              (fun n => modes (n + 1)) rfl
          have hFine :=
            drain_piece_digits (s := s.setMode .singleDigit) rfl
              p hRest hEnds
          rw [hNext, hFine]
          refine ⟨?_, hMore.failure_eq, hMore.position_eq⟩
          rw [List.flatMap_cons]
          exact congrArg _ hMore.tokens_eq

end Scanner

/-
  A text that is read with whole numbers is read alike in the
  mode of single digits, but for the digits that its numbers
  are split into; and so is a text that is read with any modes
  assigned between the reads. One mode refuses a text just
  where the other one does.
-/
theorem drain_greedy_splitsInto
    (source filename : String) :
    (Scanner.ofText source filename .greedy).drain.SplitsInto
        (Scanner.ofText source filename .singleDigit).drain ∧
      (∀ (mode : NumberMode) (modes : Nat → NumberMode),
        ((Scanner.ofText source filename mode).drainBy
          modes).SplitsInto
            (Scanner.ofText source filename .singleDigit).drain)
        ∧
      ((∃ ts, tokenize source filename .greedy = .ok ts) ↔
        ∃ ts, tokenize source filename .singleDigit = .ok ts) := by
  have hAll (mode : NumberMode) (modes : Nat → NumberMode) :
      ((Scanner.ofText source filename mode).drainBy
        modes).SplitsInto
          (Scanner.ofText source filename .singleDigit).drain :=
    Scanner.drainBy_splitsInto _ modes
  have hGreedy :
      (Scanner.ofText source filename .greedy).drain.SplitsInto
        (Scanner.ofText source filename .singleDigit).drain := by
    rw [Scanner.drain_eq_drainBy]
    exact hAll .greedy _
  refine ⟨hGreedy, hAll, ?_⟩
  simp only [tokenize_eq_ok_iff, exists_and_left,
    exists_eq', and_true]
  rw [← hGreedy.failure_eq]

end MathScan
