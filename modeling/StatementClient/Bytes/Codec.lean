import StatementClient.Text.Surrogate

/-!
# Decoding bytes into text

A `Codec` turns bytes into characters: UTF-8 (also behind a byte-order mark), UTF-16 and UTF-32
(with a byte-order mark, or in a fixed order), Latin-1, ASCII and Windows-1252.

Bytes that do not decode give an `Undecodable`: the codec's name, the span of the offending
bytes, its first byte and the reason. Surrogates are no characters: a decoder that passes encoded
surrogates through writes the stand-in of each (`Text.ofCodeUnit`).
-/

namespace StatementClient.Bytes

/-- The text encodings this library decodes. -/
inductive Codec where
  | utf8
  | utf8Sig
  | utf16
  | utf16le
  | utf16be
  | utf32
  | utf32le
  | utf32be
  | latin1
  | ascii
  | cp1252
  deriving DecidableEq, Inhabited

/-- Why a span of bytes does not decode. -/
inductive Reason where
  | invalidStartByte
  | invalidContinuationByte
  | unexpectedEnd
  | truncatedData
  | illegalEncoding
  | illegalSurrogate
  | notInRange
  | ordinalNotInRange
  | undefinedMapping
  /-- A hex escape with fewer than `digits` hex digits. -/
  | truncatedHexEscape (letter : Char) (digits : Nat)
  | illegalUnicodeCharacter
  | wideEscapeOutOfRange
  | backslashAtEnd
  | malformedNameEscape
  | unknownCharacterName
  | illegalMultibyte
  | incompleteMultibyte
  | unexpectedSpecial
  | illFormedSequence
  | partialCharacter
  | nonZeroPadding
  | unterminatedShift
  deriving DecidableEq, Inhabited

/-- The words for a reason. -/
def Reason.text : Reason → String
  | .invalidStartByte => "invalid start byte"
  | .invalidContinuationByte => "invalid continuation byte"
  | .unexpectedEnd => "unexpected end of data"
  | .truncatedData => "truncated data"
  | .illegalEncoding => "illegal encoding"
  | .illegalSurrogate => "illegal UTF-16 surrogate"
  | .notInRange => "code point not in range(0x110000)"
  | .ordinalNotInRange => "ordinal not in range(128)"
  | .undefinedMapping => "character maps to <undefined>"
  | .truncatedHexEscape c n =>
    "truncated \\" ++ c.toString ++ String.ofList (List.replicate n 'X') ++ " escape"
  | .illegalUnicodeCharacter => "illegal Unicode character"
  | .wideEscapeOutOfRange => "\\Uxxxxxxxx out of range"
  | .backslashAtEnd => "\\ at end of string"
  | .malformedNameEscape => "malformed \\N character escape"
  | .unknownCharacterName => "unknown Unicode character name"
  | .illegalMultibyte => "illegal multibyte sequence"
  | .incompleteMultibyte => "incomplete multibyte sequence"
  | .unexpectedSpecial => "unexpected special character"
  | .illFormedSequence => "ill-formed sequence"
  | .partialCharacter => "partial character in shift sequence"
  | .nonZeroPadding => "non-zero padding bits in shift sequence"
  | .unterminatedShift => "unterminated shift sequence"

/-- Bytes `[start, stop)` do not decode under the codec named `codec`. -/
structure Undecodable where
  codec : String
  start : Nat
  stop : Nat
  firstByte : UInt8
  reason : Reason
  deriving Inhabited

/-- Two lowercase hex digits. -/
def byteHex (b : UInt8) : String :=
  let s := String.ofList (Nat.toDigits 16 b.toNat)
  if s.length < 2 then "0" ++ s else s

/-- The message of a decoding fault, naming one byte or a span of positions. -/
def Undecodable.message (u : Undecodable) : String :=
  let start := u.start
  let last := u.stop - 1
  let hex := byteHex u.firstByte
  let what :=
    if u.stop = u.start + 1 then s!"byte 0x{hex} in position {start}"
    else s!"bytes in position {start}-{last}"
  "'" ++ u.codec ++ "' codec can't decode " ++ what ++ ": " ++ u.reason.text

/-- How a codec fails on bytes: bytes that do not decode, a plain error with one message (which
the caller wraps with the codec name), an error with several arguments, passed on as it is, or a
state the decoder has no rule for. -/
inductive CodecError where
  | undecodable (u : Undecodable)
  | plain (message : String)
  | bare (message : String)
  | internal
  deriving Inhabited

/-- The character of a code point, or the stand-in for a surrogate. -/
def charOf (n : Nat) : Char := Text.ofCodeUnit n

/-- Whether a byte continues a multi-byte UTF-8 sequence. -/
def isContinuation (b : UInt8) : Bool :=
  b &&& 0xC0 == 0x80

/-- The fault for a span of a UTF-8 input. -/
def utf8Fault (pos : Nat) (len : Nat) (b : UInt8) (reason : Reason) : Undecodable :=
  { codec := "utf-8", start := pos, stop := pos + len, firstByte := b, reason := reason }

/-- UTF-8 decoding from byte position `pos`. A lead byte must start a sequence of the right
length, and its continuation bytes must stay inside the ranges of the standard; encoded
surrogates are refused unless `passSurrogates`. -/
def decodeUtf8From (passSurrogates : Bool) (pos : Nat) (acc : Array Char) :
    List UInt8 → Except Undecodable (Array Char)
  | [] => .ok acc
  | b :: rest =>
    if b < 0x80 then decodeUtf8From passSurrogates (pos + 1) (acc.push (Char.ofNat b.toNat)) rest
    else if b < 0xC2 then .error (utf8Fault pos 1 b .invalidStartByte)
    else if b < 0xE0 then
      match rest with
      | [] => .error (utf8Fault pos 1 b .unexpectedEnd)
      | c :: rest' =>
        if isContinuation c then
          let n := (b.toNat % 0x20) * 0x40 + c.toNat % 0x40
          decodeUtf8From passSurrogates (pos + 2) (acc.push (Char.ofNat n)) rest'
        else .error (utf8Fault pos 1 b .invalidContinuationByte)
    else if b < 0xF0 then
      -- the second byte narrows the range after E0 and ED
      let badSecond (c : UInt8) : Bool :=
        !isContinuation c || (if c < 0xA0 then b == 0xE0 else b == 0xED)
      match rest with
      | [] => .error (utf8Fault pos 1 b .unexpectedEnd)
      | [c] =>
        if badSecond c then .error (utf8Fault pos 1 b .invalidContinuationByte)
        else .error (utf8Fault pos 2 b .unexpectedEnd)
      | c :: d :: rest' =>
        let n := (b.toNat % 0x10) * 0x1000 + (c.toNat % 0x40) * 0x40 + d.toNat % 0x40
        if passSurrogates && b == 0xED && c ≥ 0xA0 && isContinuation c && isContinuation d then
          decodeUtf8From passSurrogates (pos + 3) (acc.push (charOf n)) rest'
        else if badSecond c then .error (utf8Fault pos 1 b .invalidContinuationByte)
        else if !isContinuation d then .error (utf8Fault pos 2 b .invalidContinuationByte)
        else decodeUtf8From passSurrogates (pos + 3) (acc.push (charOf n)) rest'
    else if b < 0xF5 then
      -- the second byte narrows the range after F0 and F4
      let badSecond (c : UInt8) : Bool :=
        !isContinuation c || (if c < 0x90 then b == 0xF0 else b == 0xF4)
      match rest with
      | [] => .error (utf8Fault pos 1 b .unexpectedEnd)
      | [c] =>
        if badSecond c then .error (utf8Fault pos 1 b .invalidContinuationByte)
        else .error (utf8Fault pos 2 b .unexpectedEnd)
      | [c, d] =>
        if badSecond c then .error (utf8Fault pos 1 b .invalidContinuationByte)
        else if !isContinuation d then .error (utf8Fault pos 2 b .invalidContinuationByte)
        else .error (utf8Fault pos 3 b .unexpectedEnd)
      | c :: d :: e :: rest' =>
        if badSecond c then .error (utf8Fault pos 1 b .invalidContinuationByte)
        else if !isContinuation d then .error (utf8Fault pos 2 b .invalidContinuationByte)
        else if !isContinuation e then .error (utf8Fault pos 3 b .invalidContinuationByte)
        else
          let n := (b.toNat % 0x08) * 0x40000 + (c.toNat % 0x40) * 0x1000 +
            (d.toNat % 0x40) * 0x40 + e.toNat % 0x40
          decodeUtf8From passSurrogates (pos + 4) (acc.push (Char.ofNat n)) rest'
    else .error (utf8Fault pos 1 b .invalidStartByte)

/-- A 16-bit unit from two bytes in the given order. -/
def unit16 (bigEndian : Bool) (x y : UInt8) : Nat :=
  if bigEndian then x.toNat * 0x100 + y.toNat else y.toNat * 0x100 + x.toNat

/-- UTF-16 decoding from byte position `pos`, with the codec name `name` for faults. A high
surrogate must be followed by a low one; lone surrogates are refused unless `passSurrogates`. -/
def decodeUtf16From (name : String) (bigEndian passSurrogates : Bool) (pos : Nat)
    (acc : Array Char) (bytes : List UInt8) : Except Undecodable (Array Char) :=
  match bytes with
  | [] => .ok acc
  | [x] => .error { codec := name, start := pos, stop := pos + 1, firstByte := x,
                    reason := .truncatedData }
  | x :: y :: rest =>
    let u := unit16 bigEndian x y
    -- the unit after this one, if a whole one follows
    let next : Option Nat := match rest with
      | x' :: y' :: _ => some (unit16 bigEndian x' y')
      | _ => none
    if u < 0xD800 ∨ 0xE000 ≤ u then
      decodeUtf16From name bigEndian passSurrogates (pos + 2) (acc.push (Char.ofNat u)) rest
    else if 0xDC00 ≤ u then
      if passSurrogates then
        decodeUtf16From name bigEndian passSurrogates (pos + 2) (acc.push (charOf u)) rest
      else .error { codec := name, start := pos, stop := pos + 2, firstByte := x,
                    reason := .illegalEncoding }
    else
      match next with
      | some u' =>
        if 0xDC00 ≤ u' ∧ u' < 0xE000 then
          let n := 0x10000 + (u - 0xD800) * 0x400 + (u' - 0xDC00)
          decodeUtf16From name bigEndian passSurrogates (pos + 4) (acc.push (Char.ofNat n))
            (rest.drop 2)
        else if passSurrogates then
          decodeUtf16From name bigEndian passSurrogates (pos + 2) (acc.push (charOf u)) rest
        else .error { codec := name, start := pos, stop := pos + 2, firstByte := x,
                      reason := .illegalSurrogate }
      | none =>
        if passSurrogates then
          decodeUtf16From name bigEndian passSurrogates (pos + 2) (acc.push (charOf u)) rest
        else .error { codec := name, start := pos, stop := pos + 2 + rest.length, firstByte := x,
                      reason := .unexpectedEnd }
termination_by bytes.length
decreasing_by all_goals simp only [List.length_cons, List.length_drop]; omega

/-- UTF-32 decoding from byte position `pos`. Code points above U+10FFFF are refused, and so
are surrogates unless `passSurrogates`. -/
def decodeUtf32From (name : String) (bigEndian passSurrogates : Bool) (pos : Nat)
    (acc : Array Char) : List UInt8 → Except Undecodable (Array Char)
  | a :: b :: c :: d :: rest =>
    let n := if bigEndian then ((a.toNat * 0x100 + b.toNat) * 0x100 + c.toNat) * 0x100 + d.toNat
      else ((d.toNat * 0x100 + c.toNat) * 0x100 + b.toNat) * 0x100 + a.toNat
    if 0x110000 ≤ n then
      .error { codec := name, start := pos, stop := pos + 4, firstByte := a, reason := .notInRange }
    else if 0xD800 ≤ n ∧ n < 0xE000 ∧ !passSurrogates then
      .error { codec := name, start := pos, stop := pos + 4, firstByte := a,
               reason := .illegalEncoding }
    else decodeUtf32From name bigEndian passSurrogates (pos + 4) (acc.push (charOf n)) rest
  | [] => .ok acc
  | x :: rest => .error { codec := name, start := pos, stop := pos + 1 + rest.length,
                          firstByte := x, reason := .truncatedData }

/-- Windows-1252 in the range 0x80–0x9F: the five unassigned bytes map to nothing. -/
def cp1252High : List (Option Nat) :=
  [some 0x20AC, none, some 0x201A, some 0x0192, some 0x201E, some 0x2026, some 0x2020, some 0x2021,
   some 0x02C6, some 0x2030, some 0x0160, some 0x2039, some 0x0152, none, some 0x017D, none,
   none, some 0x2018, some 0x2019, some 0x201C, some 0x201D, some 0x2022, some 0x2013, some 0x2014,
   some 0x02DC, some 0x2122, some 0x0161, some 0x203A, some 0x0153, none, some 0x017E, some 0x0178]

/-- Decoding one byte at a time through a table; `none` marks an unmapped byte. -/
def decodeBytewise (name : String) (reason : Reason) (table : UInt8 → Option Char) (pos : Nat)
    (acc : Array Char) : List UInt8 → Except Undecodable (Array Char)
  | [] => .ok acc
  | b :: rest =>
    match table b with
    | some c => decodeBytewise name reason table (pos + 1) (acc.push c) rest
    | none => .error { codec := name, start := pos, stop := pos + 1, firstByte := b,
                       reason := reason }

/-- The character of a Windows-1252 byte. -/
def cp1252Char (b : UInt8) : Option Char :=
  if 0x80 ≤ b.toNat ∧ b.toNat < 0xA0 then
    (cp1252High.getD (b.toNat - 0x80) none).map Char.ofNat
  else some (Char.ofNat b.toNat)

/-- Byte-order marks. -/
def bomUtf8 : List UInt8 := [0xEF, 0xBB, 0xBF]
def bomUtf16le : List UInt8 := [0xFF, 0xFE]
def bomUtf16be : List UInt8 := [0xFE, 0xFF]
def bomUtf32le : List UInt8 := [0xFF, 0xFE, 0x00, 0x00]
def bomUtf32be : List UInt8 := [0x00, 0x00, 0xFE, 0xFF]

/-- Decodes bytes; `passSurrogates` lets encoded surrogates through as U+FFFD. A codec that reads
a byte-order mark drops it; the UTF-8 one counts positions after it, the others from the first
byte. Without a mark, UTF-16 and UTF-32 are little-endian. -/
def Codec.decode (codec : Codec) (passSurrogates : Bool) (bytes : List UInt8) :
    Except Undecodable String :=
  let run (r : Except Undecodable (Array Char)) : Except Undecodable String :=
    r.map (fun cs => String.ofList cs.toList)
  match codec with
  | .utf8 => run (decodeUtf8From passSurrogates 0 #[] bytes)
  | .utf8Sig =>
    if bytes.take 3 = bomUtf8 then run (decodeUtf8From passSurrogates 0 #[] (bytes.drop 3))
    else run (decodeUtf8From passSurrogates 0 #[] bytes)
  | .utf16 =>
    if bytes.take 2 = bomUtf16be then
      run (decodeUtf16From "utf-16-be" true passSurrogates 2 #[] (bytes.drop 2))
    else if bytes.take 2 = bomUtf16le then
      run (decodeUtf16From "utf-16-le" false passSurrogates 2 #[] (bytes.drop 2))
    else run (decodeUtf16From "utf-16-le" false passSurrogates 0 #[] bytes)
  | .utf16le => run (decodeUtf16From "utf-16-le" false passSurrogates 0 #[] bytes)
  | .utf16be => run (decodeUtf16From "utf-16-be" true passSurrogates 0 #[] bytes)
  | .utf32 =>
    if bytes.take 4 = bomUtf32be then
      run (decodeUtf32From "utf-32-be" true passSurrogates 4 #[] (bytes.drop 4))
    else if bytes.take 4 = bomUtf32le then
      run (decodeUtf32From "utf-32-le" false passSurrogates 4 #[] (bytes.drop 4))
    else run (decodeUtf32From "utf-32-le" false passSurrogates 0 #[] bytes)
  | .utf32le => run (decodeUtf32From "utf-32-le" false passSurrogates 0 #[] bytes)
  | .utf32be => run (decodeUtf32From "utf-32-be" true passSurrogates 0 #[] bytes)
  | .latin1 => run (decodeBytewise "latin-1" .ordinalNotInRange
      (fun b => some (Char.ofNat b.toNat)) 0 #[] bytes)
  | .ascii => run (decodeBytewise "ascii" .ordinalNotInRange
      (fun b => if b < 0x80 then some (Char.ofNat b.toNat) else none) 0 #[] bytes)
  | .cp1252 => run (decodeBytewise "charmap" .undefinedMapping cp1252Char 0 #[] bytes)

end StatementClient.Bytes
