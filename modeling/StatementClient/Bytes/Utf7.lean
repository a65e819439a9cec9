import StatementClient.Bytes.Codec

/-!
# UTF-7

UTF-7 writes most ASCII characters as themselves and everything else as UTF-16 code units in a
base-64 section opened by `+`. Reading follows these rules:

* outside a section, a byte below 0x80 other than `+` is itself; any other byte is an
  unexpected special character;
* `+-` is a plus sign; `+` before a byte that is no base-64 digit is ill-formed (both bytes);
* inside a section, every six bits join a buffer, and each full sixteen bits make a code unit; a
  high surrogate waits for a low one to join it, and is written alone when none follows;
* a byte that is no base-64 digit ends the section: it is an error when a whole digit's bits are
  left over (a partial character) or when the fewer bits left are not zero; a `-` ending the
  section is dropped, any other byte is then read as outside;
* the bytes ending inside a section with bits or a surrogate pending is an unterminated shift
  sequence, spanning from its `+` to the end.

The span of a section error starts at its `+` and ends after the byte that ended it.
-/

namespace StatementClient.Bytes

/-- Whether a byte is a base-64 digit. -/
def isBase64 (b : UInt8) : Bool :=
  (0x41 ≤ b && b ≤ 0x5A) || (0x61 ≤ b && b ≤ 0x7A) || (0x30 ≤ b && b ≤ 0x39) || b = 0x2B ||
    b = 0x2F

/-- The value of a base-64 digit. -/
def base64Value (b : UInt8) : Nat :=
  let n := b.toNat
  if 0x41 ≤ n ∧ n ≤ 0x5A then n - 0x41
  else if 0x61 ≤ n ∧ n ≤ 0x7A then n - 0x61 + 26
  else if 0x30 ≤ n ∧ n ≤ 0x39 then n - 0x30 + 52
  else if n = 0x2B then 62
  else 63

/-- Whether a byte stands for itself outside a section. -/
def isDirect (b : UInt8) : Bool := b < 0x80 && b ≠ 0x2B

/-- An open base-64 section: where its `+` was, the bits not yet used and their count, and a
high surrogate waiting for its partner. -/
structure Section where
  start : Nat
  bits : Nat
  count : Nat
  pending : Option Nat

/-- The fault of a UTF-7 span. -/
def utf7Fault (start stop : Nat) (first : UInt8) (reason : Reason) : Undecodable :=
  { codec := "utf7", start, stop, firstByte := first, reason }

/-- A code unit joined to the output, with the pending high surrogate. -/
def Section.unit (s : Section) (acc : Array Char) (u : Nat) : Section × Array Char :=
  match s.pending with
  | some hi =>
    if 0xDC00 ≤ u ∧ u < 0xE000 then
      ({ s with pending := none }, acc.push (Char.ofNat (0x10000 + (hi - 0xD800) * 0x400 + (u - 0xDC00))))
    else
      let acc := acc.push (charOf hi)
      if 0xD800 ≤ u ∧ u < 0xDC00 then ({ s with pending := some u }, acc)
      else ({ s with pending := none }, acc.push (charOf u))
  | none =>
    if 0xD800 ≤ u ∧ u < 0xDC00 then ({ s with pending := some u }, acc)
    else (s, acc.push (charOf u))

mutual

/-- Reading outside a section, at byte position `pos`. -/
def utf7Direct (pos : Nat) (acc : Array Char) (bs : List UInt8) :
    Except Undecodable (Array Char) :=
  match bs with
  | [] => .ok acc
  | b :: rest =>
    if b = 0x2B then
      match rest.head? with
      | some 0x2D => utf7Direct (pos + 2) (acc.push '+') (rest.drop 1)
      | some c =>
        if isBase64 c then utf7Shift ⟨pos, 0, 0, none⟩ (pos + 1) acc rest
        else .error (utf7Fault pos (pos + 2) b .illFormedSequence)
      | none => utf7Shift ⟨pos, 0, 0, none⟩ (pos + 1) acc rest
    else if isDirect b then utf7Direct (pos + 1) (acc.push (Char.ofNat b.toNat)) rest
    else .error (utf7Fault pos (pos + 1) b .unexpectedSpecial)
termination_by (bs.length, 0)
decreasing_by all_goals simp_wf; all_goals omega

/-- Reading inside the section `s`, at byte position `pos`. -/
def utf7Shift (s : Section) (pos : Nat) (acc : Array Char) (bs : List UInt8) :
    Except Undecodable (Array Char) :=
  match bs with
  | [] =>
    if s.pending.isSome || s.count ≥ 6 || (s.count > 0 && s.bits ≠ 0) then
      .error (utf7Fault s.start pos 0x2B .unterminatedShift)
    else .ok acc
  | b :: rest =>
    if isBase64 b then
      let bits := s.bits * 64 + base64Value b
      let count := s.count + 6
      if count ≥ 16 then
        let u := bits / Nat.pow 2 (count - 16)
        let (s, acc) := { s with bits := bits % Nat.pow 2 (count - 16), count := count - 16 }.unit acc u
        utf7Shift s (pos + 1) acc rest
      else utf7Shift { s with bits, count } (pos + 1) acc rest
    else if s.count ≥ 6 then .error (utf7Fault s.start (pos + 1) 0x2B .partialCharacter)
    else if s.count > 0 && s.bits ≠ 0 then
      .error (utf7Fault s.start (pos + 1) 0x2B .nonZeroPadding)
    else
      let acc := match s.pending with
        | some hi => if isDirect b then acc.push (charOf hi) else acc
        | none => acc
      if b = 0x2D then utf7Direct (pos + 1) acc rest
      else utf7Direct pos acc (b :: rest)
termination_by (bs.length, 1)

end

/-- Decodes UTF-7. -/
def decodeUtf7 (bs : List UInt8) : Except Undecodable String :=
  (utf7Direct 0 #[] bs).map fun cs => String.ofList cs.toList

end StatementClient.Bytes
