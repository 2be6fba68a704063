/-
  UTF-8: characters as bytes, and bytes as characters. The
  reader is strict. It refuses overlong forms, surrogates and
  numbers past the last code point, and tells where the first
  bad sequence starts, how many bytes belong to it and what is
  wrong with it.

  Key definitions include:
    * `Utf8.encode`
    * `Utf8.Fault`
    * `Utf8.Fault.message`
    * `Utf8.decode`
    * `Utf8.decodeComplete`
-/

namespace MathScan.Text.Utf8

------------------------------------------------------------
-- Writing
------------------------------------------------------------

def encodeChar
    (c : Char) : List UInt8 :=
  let n := c.toNat
  if n < 0x80 then
    [.ofNat n]
  else if n < 0x800 then
    [.ofNat (0xC0 + n / 0x40), .ofNat (0x80 + n % 0x40)]
  else if n < 0x10000 then
    [.ofNat (0xE0 + n / 0x1000),
      .ofNat (0x80 + n / 0x40 % 0x40),
      .ofNat (0x80 + n % 0x40)]
  else
    [.ofNat (0xF0 + n / 0x40000),
      .ofNat (0x80 + n / 0x1000 % 0x40),
      .ofNat (0x80 + n / 0x40 % 0x40),
      .ofNat (0x80 + n % 0x40)]

def encode
    (cs : List Char) : List UInt8 :=
  cs.flatMap encodeChar

------------------------------------------------------------
-- Faults
------------------------------------------------------------

/- What is wrong with a sequence of bytes. -/
inductive Reason where
  /- No character starts with this byte. -/
  | badStart
  /- The bytes end inside a character. -/
  | cutShort
  /- A byte stands where a tail byte was owed. -/
  | badTail
deriving DecidableEq

def Reason.message : Reason → String
  | badStart => "invalid start byte"
  | cutShort => "unexpected end of data"
  | badTail => "invalid continuation byte"

/-
  A sequence that is no character: its first byte, where it
  starts, how many bytes belong to it, and the reason.
-/
structure Fault where
  lead : UInt8
  start : Nat
  size : Nat
  reason : Reason
deriving DecidableEq

/- Where a fault stands, in words. -/
def Fault.place
    (fault : Fault) : String :=
  if fault.size = 1 then
    "byte 0x" ++
      String.ofList (Nat.toDigits 16 fault.lead.toNat) ++
      s!" in position {fault.start}"
  else
    s!"bytes in position {fault.start}-" ++
      toString (fault.start + fault.size - 1)

def Fault.message
    (fault : Fault) : String :=
  "'utf-8' codec can't decode " ++ fault.place ++ ": " ++
    fault.reason.message

------------------------------------------------------------
-- Reading one character
------------------------------------------------------------

/-
  What a lead byte promises: its share of the number, how many
  tail bytes follow, and the range of the first of them.
-/
structure Lead where
  share : Nat
  tails : Nat
  low : Nat
  high : Nat

/- The promise of a lead byte, if it is one. -/
def lead?
    (byte : UInt8) : Option Lead :=
  let n := byte.toNat
  if n < 0x80 then
    some ⟨n, 0, 0x80, 0xBF⟩
  else if n < 0xC2 then
    none
  else if n < 0xE0 then
    some ⟨n - 0xC0, 1, 0x80, 0xBF⟩
  else if n < 0xF0 then
    some ⟨n - 0xE0, 2,
      if n = 0xE0 then 0xA0 else 0x80,
      if n = 0xED then 0x9F else 0xBF⟩
  else if n < 0xF5 then
    some ⟨n - 0xF0, 3,
      if n = 0xF0 then 0x90 else 0x80,
      if n = 0xF4 then 0x8F else 0xBF⟩
  else
    none

/-
  Reads the tail bytes that are owed after `seen` bytes of a
  character, the first of them between `low` and `high`, and
  adds their shares to the number so far. The answer holds the
  number, the count of bytes seen and the bytes behind them.
-/
def readTails :
    (owed low high number seen : Nat) →
    List UInt8 →
    Except (Reason × Nat) (Nat × Nat × List UInt8)
  | 0, _, _, number, seen, rest => .ok (number, seen, rest)
  | _ + 1, _, _, _, seen, [] => .error (.cutShort, seen)
  | owed + 1, low, high, number, seen, byte :: rest =>
    if low ≤ byte.toNat ∧ byte.toNat ≤ high then
      readTails owed 0x80 0xBF
        (number * 0x40 + (byte.toNat - 0x80)) (seen + 1) rest
    else
      .error (.badTail, seen)

/-
  Reads the character that starts with a byte: its code point,
  its count of bytes and the bytes behind it.
-/
def readChar
    (byte : UInt8)
    (rest : List UInt8) :
    Except (Reason × Nat) (Nat × Nat × List UInt8) :=
  match lead? byte with
  | none => .error (.badStart, 1)
  | some lead =>
    readTails lead.tails lead.low lead.high lead.share 1 rest

/- The bytes behind the tails are no more than there were. -/
theorem length_of_readTails
    {owed low high number seen n size : Nat}
    {bytes rest : List UInt8}
    (hRead :
      readTails owed low high number seen bytes =
        .ok (n, size, rest)) :
    rest.length ≤ bytes.length := by
  fun_induction readTails owed low high number seen bytes with
  | case1 => simp_all
  | case2 => simp at hRead
  | case3 _ _ _ _ _ byte more _ ih =>
    have := ih hRead
    simp only [List.length_cons]
    omega
  | case4 => simp at hRead

/- The bytes behind a character are no more than there were. -/
theorem length_of_readChar
    {byte : UInt8}
    {n size : Nat}
    {bytes rest : List UInt8}
    (hRead : readChar byte bytes = .ok (n, size, rest)) :
    rest.length ≤ bytes.length := by
  unfold readChar at hRead
  split at hRead
  · simp at hRead
  · exact length_of_readTails hRead

------------------------------------------------------------
-- Reading a text
------------------------------------------------------------

/- Reads all bytes from the offset `start` on. -/
def decodeFrom
    (start : Nat) :
    List UInt8 → Except Fault (List Char)
  | [] => .ok []
  | byte :: bytes =>
    match hRead : readChar byte bytes with
    | .error (reason, size) =>
      .error ⟨byte, start, size, reason⟩
    | .ok (n, size, rest) =>
      have := length_of_readChar hRead
      (decodeFrom (start + size) rest).map (Char.ofNat n :: ·)
termination_by bytes => bytes.length
decreasing_by
  simp only [List.length_cons]
  omega

/- The text that bytes spell, or the first fault in them. -/
def decode
    (bytes : List UInt8) : Except Fault (List Char) :=
  decodeFrom 0 bytes

/-
  Whether bytes are a surrogate that lacks its last byte. Such
  a number is refused in the end, but it is known for what it
  is only with all its bytes.
-/
def startsSurrogate
    (bytes : List UInt8) : Bool :=
  match bytes.map UInt8.toNat with
  | [lead, tail] =>
    lead == 0xED && decide (0xA0 ≤ tail ∧ tail ≤ 0xBF)
  | _ => false

/-
  The text of bytes that go on, and the bytes behind it. Those
  are the start of a character or of a surrogate that is cut
  short, which is no fault as long as more bytes may follow.
-/
def decodeComplete
    (bytes : List UInt8) :
    Except Fault (List Char × List UInt8) :=
  match decode bytes with
  | .ok cs => .ok (cs, [])
  | .error fault =>
    let rest := bytes.drop fault.start
    if fault.reason = .cutShort ∨ startsSurrogate rest then
      (decode (bytes.take fault.start)).map
        (fun cs => (cs, rest))
    else
      .error fault

end MathScan.Text.Utf8
