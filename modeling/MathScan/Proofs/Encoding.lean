import MathScan.Files.Reading
import Mathlib.Data.List.Basic

/-
  The reader of UTF-8 and the writer belong together: bytes
  are read as a text exactly if they are the bytes of that
  text. So they are refused exactly if they are the bytes of
  no text at all.

  Key definitions include:
    * `Utf8.Spells`

  The key statements are:
    * `Utf8.readChar_eq_ok_iff`
    * `Utf8.decode_eq_ok_iff`
    * `Utf8.exists_encode_before_fault`
    * `Utf8.length_encode_le_fault`
-/

------------------------------------------------------------
-- Rows of Bytes
------------------------------------------------------------

namespace MathScan.Text.Utf8

/- Whether a byte goes on with a character. -/
def IsTail
    (byte : UInt8) : Prop :=
  0x80 ≤ byte.toNat ∧ byte.toNat ≤ 0xBF

/-
  The number that a row of bytes spells. The first tail has a
  smaller range where the number would fit into fewer bytes,
  be a surrogate, or lie past the last code point.
-/
inductive Spells
    (n : Nat) : List UInt8 → Prop where
  | one
      {a : UInt8}
      (hLead : a.toNat < 0x80)
      (hNumber : n = a.toNat) :
      Spells n [a]
  | two
      {a b : UInt8}
      (hLead : 0xC2 ≤ a.toNat ∧ a.toNat < 0xE0)
      (hTail : IsTail b)
      (hNumber :
        n = (a.toNat - 0xC0) * 0x40 + (b.toNat - 0x80)) :
      Spells n [a, b]
  | three
      {a b c : UInt8}
      (hLead : 0xE0 ≤ a.toNat ∧ a.toNat < 0xF0)
      (hFirst :
        IsTail b ∧
          (a.toNat = 0xE0 → 0xA0 ≤ b.toNat) ∧
          (a.toNat = 0xED → b.toNat ≤ 0x9F))
      (hTail : IsTail c)
      (hNumber :
        n =
          ((a.toNat - 0xE0) * 0x40 + (b.toNat - 0x80)) * 0x40 +
            (c.toNat - 0x80)) :
      Spells n [a, b, c]
  | four
      {a b c d : UInt8}
      (hLead : 0xF0 ≤ a.toNat ∧ a.toNat < 0xF5)
      (hFirst :
        IsTail b ∧
          (a.toNat = 0xF0 → 0x90 ≤ b.toNat) ∧
          (a.toNat = 0xF4 → b.toNat ≤ 0x8F))
      (hTails : IsTail c ∧ IsTail d)
      (hNumber :
        n =
          (((a.toNat - 0xF0) * 0x40 + (b.toNat - 0x80)) * 0x40 +
              (c.toNat - 0x80)) * 0x40 +
            (d.toNat - 0x80)) :
      Spells n [a, b, c, d]

/- The promises of lead bytes, row by row. -/
theorem lead?_eq_some_iff
    {byte : UInt8}
    {lead : Lead} :
    lead? byte = some lead ↔
      (byte.toNat < 0x80 ∧
          lead = ⟨byte.toNat, 0, 0x80, 0xBF⟩) ∨
        ((0xC2 ≤ byte.toNat ∧ byte.toNat < 0xE0) ∧
          lead = ⟨byte.toNat - 0xC0, 1, 0x80, 0xBF⟩) ∨
        ((0xE0 ≤ byte.toNat ∧ byte.toNat < 0xF0) ∧
          lead =
            ⟨byte.toNat - 0xE0, 2,
              if byte.toNat = 0xE0 then 0xA0 else 0x80,
              if byte.toNat = 0xED then 0x9F else 0xBF⟩) ∨
        ((0xF0 ≤ byte.toNat ∧ byte.toNat < 0xF5) ∧
          lead =
            ⟨byte.toNat - 0xF0, 3,
              if byte.toNat = 0xF0 then 0x90 else 0x80,
              if byte.toNat = 0xF4 then 0x8F else 0xBF⟩) := by
  unfold lead?
  simp only
  constructor
  · intro hLead
    split at hLead
    · rename_i hOne
      exact .inl ⟨hOne, (Option.some.inj hLead).symm⟩
    split at hLead
    · cases hLead
    split at hLead
    · rename_i hTwo
      exact .inr (.inl
        ⟨⟨by omega, hTwo⟩, (Option.some.inj hLead).symm⟩)
    split at hLead
    · rename_i hThree
      exact .inr (.inr (.inl
        ⟨⟨by omega, hThree⟩, (Option.some.inj hLead).symm⟩))
    split at hLead
    · rename_i hFour
      exact .inr (.inr (.inr
        ⟨⟨by omega, hFour⟩, (Option.some.inj hLead).symm⟩))
    · cases hLead
  · rintro (⟨hOne, rfl⟩ | ⟨hTwo, rfl⟩ | ⟨hThree, rfl⟩ |
      ⟨hFour, rfl⟩)
    · rw [if_pos hOne]
    · rw [if_neg (by omega), if_neg (by omega),
        if_pos hTwo.2]
    · rw [if_neg (by omega), if_neg (by omega),
        if_neg (by omega), if_pos hThree.2]
    · rw [if_neg (by omega), if_neg (by omega),
        if_neg (by omega), if_neg (by omega), if_pos hFour.2]

/- The range of a first tail, which two lead bytes narrow. -/
theorem within_iff_isTail
    {byte : UInt8}
    {lead narrowLow narrowHigh low high : Nat}
    (hLow : 0x80 ≤ low)
    (hHigh : high ≤ 0xBF) :
    ((if lead = narrowLow then low else 0x80) ≤ byte.toNat ∧
        byte.toNat ≤ if lead = narrowHigh then high else 0xBF) ↔
      IsTail byte ∧
        (lead = narrowLow → low ≤ byte.toNat) ∧
        (lead = narrowHigh → byte.toNat ≤ high) := by
  unfold IsTail
  split
  · split
    · omega
    · omega
  · split
    · omega
    · omega

/- A tail that is owed is read where it is within its range. -/
theorem readTails_succ_eq_ok_iff
    {owed low high number seen : Nat}
    {bytes : List UInt8}
    {found : Nat × Nat × List UInt8} :
    readTails (owed + 1) low high number seen bytes =
        .ok found ↔
      ∃ byte more,
        bytes = byte :: more ∧
          (low ≤ byte.toNat ∧ byte.toNat ≤ high) ∧
          readTails owed 0x80 0xBF
            (number * 0x40 + (byte.toNat - 0x80)) (seen + 1)
            more = .ok found := by
  constructor
  · intro hRead
    cases bytes with
    | nil => cases hRead
    | cons byte more =>
        rw [readTails] at hRead
        split at hRead
        · rename_i hRange
          exact ⟨byte, more, rfl, hRange, hRead⟩
        · cases hRead
  · rintro ⟨byte, more, rfl, hRange, hRead⟩
    rw [readTails, if_pos hRange]
    exact hRead

/- Where no tail is owed, nothing more is read. -/
theorem readTails_zero_eq_ok_iff
    {low high number seen n size : Nat}
    {bytes rest : List UInt8} :
    readTails 0 low high number seen bytes =
        .ok (n, size, rest) ↔
      n = number ∧ size = seen ∧ rest = bytes := by
  rw [readTails, Except.ok.injEq, Prod.mk.injEq,
    Prod.mk.injEq]
  constructor
  · rintro ⟨hNumber, hSeen, hBytes⟩
    exact ⟨hNumber.symm, hSeen.symm, hBytes.symm⟩
  · rintro ⟨hNumber, hSeen, hBytes⟩
    exact ⟨hNumber.symm, hSeen.symm, hBytes.symm⟩

/- A character is read by its lead byte, and then its tails. -/
theorem readChar_eq_ok_iff_readTails
    {byte : UInt8}
    {bytes : List UInt8}
    {found : Nat × Nat × List UInt8} :
    readChar byte bytes = .ok found ↔
      ∃ lead,
        lead? byte = some lead ∧
          readTails lead.tails lead.low lead.high lead.share 1
            bytes = .ok found := by
  unfold readChar
  cases lead? byte with
  | none => simp
  | some lead => simp

/- A row is read for the number that it spells. -/
theorem readChar_of_spells
    {n : Nat}
    {byte : UInt8}
    {more : List UInt8}
    (hSpells : Spells n (byte :: more))
    (rest : List UInt8) :
    readChar byte (more ++ rest) =
      .ok (n, more.length + 1, rest) := by
  apply readChar_eq_ok_iff_readTails.mpr
  cases hSpells with
  | one hLead hNumber =>
      refine ⟨_, lead?_eq_some_iff.mpr (.inl ⟨hLead, rfl⟩), ?_⟩
      exact readTails_zero_eq_ok_iff.mpr ⟨hNumber, rfl, rfl⟩
  | two hLead hTail hNumber =>
      refine ⟨_,
        lead?_eq_some_iff.mpr (.inr (.inl ⟨hLead, rfl⟩)), ?_⟩
      apply readTails_succ_eq_ok_iff.mpr
      refine ⟨_, _, rfl, hTail, ?_⟩
      exact readTails_zero_eq_ok_iff.mpr ⟨hNumber, rfl, rfl⟩
  | three hLead hFirst hTail hNumber =>
      refine ⟨_,
        lead?_eq_some_iff.mpr (.inr (.inr (.inl ⟨hLead, rfl⟩))),
        ?_⟩
      apply readTails_succ_eq_ok_iff.mpr
      refine ⟨_, _, rfl, (within_iff_isTail (by decide)
        (by decide)).mpr hFirst, ?_⟩
      apply readTails_succ_eq_ok_iff.mpr
      refine ⟨_, _, rfl, hTail, ?_⟩
      exact readTails_zero_eq_ok_iff.mpr ⟨hNumber, rfl, rfl⟩
  | four hLead hFirst hTails hNumber =>
      refine ⟨_,
        lead?_eq_some_iff.mpr (.inr (.inr (.inr ⟨hLead, rfl⟩))),
        ?_⟩
      apply readTails_succ_eq_ok_iff.mpr
      refine ⟨_, _, rfl, (within_iff_isTail (by decide)
        (by decide)).mpr hFirst, ?_⟩
      apply readTails_succ_eq_ok_iff.mpr
      refine ⟨_, _, rfl, hTails.1, ?_⟩
      apply readTails_succ_eq_ok_iff.mpr
      refine ⟨_, _, rfl, hTails.2, ?_⟩
      exact readTails_zero_eq_ok_iff.mpr ⟨hNumber, rfl, rfl⟩

/- What is read for a number is a row that spells it. -/
theorem spells_of_readChar
    {n size : Nat}
    {byte : UInt8}
    {bytes rest : List UInt8}
    (hRead : readChar byte bytes = .ok (n, size, rest)) :
    ∃ more,
      Spells n (byte :: more) ∧
        bytes = more ++ rest ∧ size = more.length + 1 := by
  rcases readChar_eq_ok_iff_readTails.mp hRead with
    ⟨lead, hLead, hTails⟩
  rcases lead?_eq_some_iff.mp hLead with
    ⟨hOne, rfl⟩ | ⟨hTwo, rfl⟩ | ⟨hThree, rfl⟩ | ⟨hFour, rfl⟩
  · rcases readTails_zero_eq_ok_iff.mp hTails with
      ⟨hNumber, rfl, rfl⟩
    exact ⟨[], .one hOne hNumber, rfl, rfl⟩
  · rcases readTails_succ_eq_ok_iff.mp hTails with
      ⟨b, more, rfl, hFirst, hEnd⟩
    rcases readTails_zero_eq_ok_iff.mp hEnd with
      ⟨hNumber, rfl, rfl⟩
    exact ⟨[b], .two hTwo hFirst hNumber, rfl, rfl⟩
  · rcases readTails_succ_eq_ok_iff.mp hTails with
      ⟨b, more, rfl, hFirst, hMore⟩
    rcases readTails_succ_eq_ok_iff.mp hMore with
      ⟨c, more, rfl, hSecond, hEnd⟩
    rcases readTails_zero_eq_ok_iff.mp hEnd with
      ⟨hNumber, rfl, rfl⟩
    rw [within_iff_isTail (by decide) (by decide)] at hFirst
    exact ⟨[b, c], .three hThree hFirst hSecond hNumber,
      rfl, rfl⟩
  · rcases readTails_succ_eq_ok_iff.mp hTails with
      ⟨b, more, rfl, hFirst, hMore⟩
    rcases readTails_succ_eq_ok_iff.mp hMore with
      ⟨c, more, rfl, hSecond, hMore⟩
    rcases readTails_succ_eq_ok_iff.mp hMore with
      ⟨d, more, rfl, hThird, hEnd⟩
    rcases readTails_zero_eq_ok_iff.mp hEnd with
      ⟨hNumber, rfl, rfl⟩
    rw [within_iff_isTail (by decide) (by decide)] at hFirst
    exact ⟨[b, c, d],
      .four hFour hFirst ⟨hSecond, hThird⟩ hNumber, rfl, rfl⟩

end MathScan.Text.Utf8

------------------------------------------------------------
-- Characters
------------------------------------------------------------

namespace MathScan.Text.Utf8

theorem spells_encodeChar
    (c : Char) :
    Spells c.toNat (encodeChar c) := by
  have hValid : c.toNat.isValidChar := c.valid
  have hByte {n : Nat} (hSmall : n < 0x100) :
      (UInt8.ofNat n).toNat = n :=
    UInt8.toNat_ofNat_of_lt' hSmall
  unfold Nat.isValidChar at hValid
  unfold encodeChar
  generalize c.toNat = n at hValid
  simp only
  split
  · rename_i hOne
    have hLead := hByte (n := n) (by omega)
    apply Spells.one
    · omega
    · omega
  split
  · rename_i hTwo
    have hLead := hByte (n := 0xC0 + n / 0x40) (by omega)
    have hTail := hByte (n := 0x80 + n % 0x40) (by omega)
    apply Spells.two
    · omega
    · unfold IsTail
      omega
    · omega
  split
  · rename_i hThree
    have hLead := hByte (n := 0xE0 + n / 0x1000) (by omega)
    have hFirst :=
      hByte (n := 0x80 + n / 0x40 % 0x40) (by omega)
    have hTail := hByte (n := 0x80 + n % 0x40) (by omega)
    apply Spells.three
    · omega
    · unfold IsTail
      omega
    · unfold IsTail
      omega
    · omega
  · have hLead := hByte (n := 0xF0 + n / 0x40000) (by omega)
    have hFirst :=
      hByte (n := 0x80 + n / 0x1000 % 0x40) (by omega)
    have hSecond :=
      hByte (n := 0x80 + n / 0x40 % 0x40) (by omega)
    have hTail := hByte (n := 0x80 + n % 0x40) (by omega)
    apply Spells.four
    · omega
    · unfold IsTail
      omega
    · unfold IsTail
      omega
    · omega

/- A row of bytes spells the number of a character. -/
theorem isValidChar_of_spells
    {n : Nat}
    {bytes : List UInt8}
    (hSpells : Spells n bytes) :
    n.isValidChar := by
  unfold Nat.isValidChar
  cases hSpells with
  | one hLead hNumber => omega
  | two hLead hTail hNumber =>
      unfold IsTail at hTail
      omega
  | three hLead hFirst hTail hNumber =>
      unfold IsTail at hFirst hTail
      omega
  | four hLead hFirst hTails hNumber =>
      unfold IsTail at hFirst hTails
      omega

/- A row that spells the number of a character is its own. -/
theorem encodeChar_of_spells
    {c : Char}
    {bytes : List UInt8}
    (hSpells : Spells c.toNat bytes) :
    encodeChar c = bytes := by
  have hByte {n : Nat} {b : UInt8} (hNumber : n = b.toNat) :
      UInt8.ofNat n = b := by
    rw [hNumber, UInt8.ofNat_toNat]
  unfold encodeChar
  generalize c.toNat = n at hSpells
  simp only
  cases hSpells with
  | @one a hLead hNumber =>
      rw [if_pos (by omega), hByte (b := a) (by omega)]
  | @two a b hLead hTail hNumber =>
      unfold IsTail at hTail
      rw [if_neg (by omega), if_pos (by omega),
        hByte (b := a) (by omega), hByte (b := b) (by omega)]
  | @three a b c hLead hFirst hTail hNumber =>
      unfold IsTail at hFirst hTail
      rw [if_neg (by omega), if_neg (by omega),
        if_pos (by omega), hByte (b := a) (by omega),
        hByte (b := b) (by omega), hByte (b := c) (by omega)]
  | @four a b c d hLead hFirst hTails hNumber =>
      unfold IsTail at hFirst hTails
      rw [if_neg (by omega), if_neg (by omega),
        if_neg (by omega), hByte (b := a) (by omega),
        hByte (b := b) (by omega), hByte (b := c) (by omega),
        hByte (b := d) (by omega)]

/- A character is read exactly where its bytes stand. -/
theorem readChar_eq_ok_iff
    {n size : Nat}
    {byte : UInt8}
    {bytes rest : List UInt8} :
    readChar byte bytes = .ok (n, size, rest) ↔
      ∃ c : Char,
        n = c.toNat ∧ size = (encodeChar c).length ∧
          byte :: bytes = encodeChar c ++ rest := by
  constructor
  · intro hRead
    rcases spells_of_readChar hRead with
      ⟨more, hSpells, rfl, rfl⟩
    let c := Char.ofNatAux n (isValidChar_of_spells hSpells)
    have hNumber : c.toNat = n := rfl
    rw [← hNumber] at hSpells
    have hBytes := encodeChar_of_spells hSpells
    refine ⟨c, hNumber.symm, ?_, ?_⟩
    · rw [hBytes, List.length_cons]
    · rw [hBytes, List.cons_append]
  · rintro ⟨c, rfl, rfl, hBytes⟩
    have hSpells := spells_encodeChar c
    cases hRow : encodeChar c with
    | nil =>
        rw [hRow] at hSpells
        cases hSpells
    | cons lead more =>
        rw [hRow] at hSpells hBytes
        rcases List.cons.inj hBytes with ⟨rfl, rfl⟩
        exact readChar_of_spells hSpells rest

end MathScan.Text.Utf8

------------------------------------------------------------
-- Texts
------------------------------------------------------------

namespace MathScan.Text.Utf8

/- Reading goes on behind a character. -/
theorem decodeFrom_of_readChar
    {start n size : Nat}
    {byte : UInt8}
    {bytes rest : List UInt8}
    (hRead : readChar byte bytes = .ok (n, size, rest)) :
    decodeFrom start (byte :: bytes) =
      (decodeFrom (start + size) rest).map
        (Char.ofNat n :: ·) := by
  rw [decodeFrom]
  split
  · rename_i hError
    rw [hRead] at hError
    cases hError
  · rename_i hFound
    rw [hRead] at hFound
    cases hFound
    rfl

theorem decodeFrom_encodeChar
    (start : Nat)
    (c : Char)
    (rest : List UInt8) :
    decodeFrom start (encodeChar c ++ rest) =
      (decodeFrom (start + (encodeChar c).length) rest).map
        (c :: ·) := by
  cases hRow : encodeChar c with
  | nil =>
      have hSpells := spells_encodeChar c
      rw [hRow] at hSpells
      cases hSpells
  | cons byte more =>
      have hRead :
          readChar byte (more ++ rest) =
            .ok (c.toNat, (encodeChar c).length, rest) := by
        apply readChar_eq_ok_iff.mpr
        exact ⟨c, rfl, rfl, by rw [hRow, List.cons_append]⟩
      rw [List.cons_append, decodeFrom_of_readChar hRead,
        Char.ofNat_toNat, hRow]

/- The bytes of a text are read as the text. -/
theorem decodeFrom_encode
    (start : Nat)
    (cs : List Char) :
    decodeFrom start (encode cs) = .ok cs := by
  induction cs generalizing start with
  | nil =>
      rw [encode, List.flatMap_nil, decodeFrom]
  | cons c cs ih =>
      have hBytes : encode (c :: cs) = encodeChar c ++ encode cs :=
        List.flatMap_cons
      rw [hBytes, decodeFrom_encodeChar, ih]
      rfl

/- What is read as a text is the bytes of the text. -/
theorem eq_encode_of_decodeFrom
    {start : Nat}
    {bytes : List UInt8}
    {cs : List Char}
    (hRead : decodeFrom start bytes = .ok cs) :
    bytes = encode cs := by
  fun_induction decodeFrom start bytes generalizing cs with
  | case1 start =>
      rw [← Except.ok.inj hRead, encode, List.flatMap_nil]
  | case2 start byte bytes reason size hFault => cases hRead
  | case3 start byte bytes n size rest hChar _ ih =>
      rcases readChar_eq_ok_iff.mp hChar with
        ⟨c, rfl, rfl, hBytes⟩
      cases hMore :
          decodeFrom (start + (encodeChar c).length) rest with
      | error fault =>
          rw [hMore] at hRead
          cases hRead
      | ok more =>
          rw [hMore, Except.map, Except.ok.injEq,
            Char.ofNat_toNat] at hRead
          rw [hBytes, ih hMore, ← hRead]
          exact List.flatMap_cons.symm

/- Bytes are read as a text exactly if they are its bytes. -/
theorem decode_eq_ok_iff
    {bytes : List UInt8}
    {cs : List Char} :
    decode bytes = .ok cs ↔ bytes = encode cs := by
  constructor
  · intro hRead
    exact eq_encode_of_decodeFrom hRead
  · rintro rfl
    exact decodeFrom_encode 0 cs

/- Bytes are refused exactly if they are those of no text. -/
theorem decode_eq_error_iff
    {bytes : List UInt8} :
    (∃ fault, decode bytes = .error fault) ↔
      ∀ cs, bytes ≠ encode cs := by
  constructor
  · rintro ⟨fault, hFault⟩ cs hBytes
    rw [decode_eq_ok_iff.mpr hBytes] at hFault
    cases hFault
  · intro hNone
    cases hRead : decode bytes with
    | error fault => exact ⟨fault, rfl⟩
    | ok cs =>
        exact absurd (decode_eq_ok_iff.mp hRead) (hNone cs)

end MathScan.Text.Utf8

------------------------------------------------------------
-- Faults
------------------------------------------------------------

namespace MathScan.Text.Utf8

variable {start : Nat} {bytes : List UInt8} {fault : Fault}

/- The bytes in front of a fault are those of a text. -/
theorem exists_encode_before_fault
    (hRead : decodeFrom start bytes = .error fault) :
    ∃ cs, encode cs <+: bytes ∧
      fault.start = start + (encode cs).length := by
  fun_induction decodeFrom start bytes with
  | case1 start => cases hRead
  | case2 start byte bytes reason size hFault =>
      rw [← Except.error.inj hRead]
      exact ⟨[], List.nil_prefix, rfl⟩
  | case3 start byte bytes n size rest hChar _ ih =>
      rcases readChar_eq_ok_iff.mp hChar with
        ⟨c, rfl, rfl, hBytes⟩
      cases hMore :
          decodeFrom (start + (encodeChar c).length) rest with
      | ok more =>
          rw [hMore] at hRead
          cases hRead
      | error later =>
          rw [hMore] at hRead
          rcases ih (hMore.trans hRead) with
            ⟨cs, hPrefix, hStart⟩
          have hEncode :
              encode (c :: cs) = encodeChar c ++ encode cs :=
            List.flatMap_cons
          refine ⟨c :: cs, ?_, ?_⟩
          · rw [hBytes, hEncode, List.prefix_append_right_inj]
            exact hPrefix
          · rw [hEncode, List.length_append]
            omega

/- No bytes of a text reach behind the start of a fault. -/
theorem length_encode_le_fault
    (hRead : decodeFrom start bytes = .error fault)
    {cs : List Char}
    (hPrefix : encode cs <+: bytes) :
    start + (encode cs).length ≤ fault.start := by
  induction cs generalizing start bytes with
  | nil =>
      rcases exists_encode_before_fault hRead with
        ⟨before, _, hStart⟩
      rw [hStart, encode, List.flatMap_nil, List.length_nil]
      omega
  | cons c cs ih =>
      have hEncode :
          encode (c :: cs) = encodeChar c ++ encode cs :=
        List.flatMap_cons
      rcases hPrefix with ⟨more, rfl⟩
      rw [hEncode, List.append_assoc,
        decodeFrom_encodeChar] at hRead
      cases hMore :
          decodeFrom (start + (encodeChar c).length)
            (encode cs ++ more) with
      | ok text =>
          rw [hMore] at hRead
          cases hRead
      | error later =>
          rw [hMore] at hRead
          have hRest :=
            ih (hMore.trans hRead)
              (List.prefix_append (encode cs) more)
          rw [hEncode, List.length_append]
          omega

end MathScan.Text.Utf8

------------------------------------------------------------
-- Texts of Files
------------------------------------------------------------

namespace MathScan

/- The bytes of a text are read as the text, with one newline. -/
theorem decodeText_encode
    (cs : List Char) :
    decodeText (Text.Utf8.encode cs) =
      .ok (Text.unifyNewlines cs) := by
  rw [decodeText, Text.Utf8.decode_eq_ok_iff.mpr rfl, Except.map]

/- Bytes give no text exactly if they are those of no text. -/
theorem decodeText_eq_error_iff
    {bytes : List UInt8} :
    (∃ fault, decodeText bytes = .error fault) ↔
      ∀ cs, bytes ≠ Text.Utf8.encode cs := by
  rw [← Text.Utf8.decode_eq_error_iff, decodeText]
  cases Text.Utf8.decode bytes with
  | error fault => simp [Except.map]
  | ok cs => simp [Except.map]

end MathScan
