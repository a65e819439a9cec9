import StatementClient.Bytes.Codec
import StatementClient.Text.Punycode
import StatementClient.Text.Case
import StatementClient.Text.Quoted

/-!
# Domain labels as a text codec

Two codecs read bytes as domain names.

The punycode codec (`decodePunycodeBytes`) splits the bytes at the last hyphen: what comes before
is basic text in ASCII, what comes after are the digits of the insertions, read in either case.
Digits that run out, a character that is no digit and a code point beyond `U+10FFFF` are plain
errors.

The IDNA codec (`decodeIdnaBytes`) passes ASCII bytes without the ACE prefix `xn--` through as
they are. Otherwise it reads label by label, between dots (a final dot is kept): a label of more
than 1024 bytes is refused; one without the prefix must be ASCII; one with the prefix is decoded
by the punycode codec, and the text must encode back to the label, compared without case. Encoding
back follows the label preparation of the older IDNA: characters mapped to nothing are dropped,
letters lowered, prohibited characters refused, and a label that is not ASCII then must not start
with the prefix and is written in punycode after it; a label must have 1 to 63 characters.
-/

namespace StatementClient.Bytes

/-- Bytes split at every occurrence of one byte. -/
def splitAt (sep : UInt8) (bs : List UInt8) : List (List UInt8) :=
  let (last, done) := bs.foldl (fun (cur, done) b =>
    if b = sep then ([], done ++ [cur]) else (cur ++ [b], done)) ([], [])
  done ++ [last]

/-- Whether some bytes contain a run of bytes. -/
def containsRun (run : List UInt8) : List UInt8 → Bool
  | [] => run.isEmpty
  | b :: rest => (b :: rest).take run.length = run || containsRun run rest

/-- The ACE prefix `xn--`. -/
def acePrefix : List UInt8 := [0x78, 0x6E, 0x2D, 0x2D]

/-- ASCII bytes as text, or the fault of the first byte beyond ASCII. -/
def asciiText (bs : List UInt8) : Except CodecError String :=
  match Codec.ascii.decode false bs with
  | .ok t => .ok t
  | .error u => .error (.undecodable u)

/-- Decodes bytes with the punycode codec; `ofPoint` makes the character of a code point. -/
def decodePunycodeBytes (ofPoint : Nat → Char) (bs : List UInt8) : Except CodecError String := do
  let hyphen := bs.length - 1 - ((bs.reverse.findIdx? (· = 0x2D)).getD bs.length)
  let (basic, digits) ←
    if bs.contains 0x2D then
      pure ((← asciiText (bs.take hyphen)).toList, (← asciiText (bs.drop (hyphen + 1))).toList)
    else pure ([], (← asciiText bs).toList)
  match Text.Punycode.insertReporting ofPoint digits basic 128 0 72 true with
  | .ok cs => pure (String.ofList cs)
  | .error f => throw (.plain f.message)

/-- The code points a label drops before it is encoded. -/
def droppedInLabels : List (Nat × Nat) :=
  [(0xAD, 0xAD), (0x34F, 0x34F), (0x1806, 0x1806), (0x180B, 0x180D), (0x200B, 0x200D),
   (0x2060, 0x2060), (0xFE00, 0xFE0F), (0xFEFF, 0xFEFF)]

/-- The code points a label may not hold: spaces and controls beyond ASCII, private use,
non-characters, surrogates, and characters that change the display. -/
def prohibitedInLabels : List (Nat × Nat) :=
  [(0x80, 0xA0), (0x340, 0x341), (0x6DD, 0x6DD), (0x70F, 0x70F), (0x1680, 0x1680),
   (0x180E, 0x180E), (0x2000, 0x200F), (0x2028, 0x202F), (0x205F, 0x2063), (0x206A, 0x206F),
   (0x2FF0, 0x2FFB), (0x3000, 0x3000), (0xD800, 0xF8FF), (0xFDD0, 0xFDEF), (0xFEFF, 0xFEFF),
   (0xFFF9, 0xFFFF), (0x1D173, 0x1D17A), (0x1FFFE, 0x1FFFF), (0x2FFFE, 0x2FFFF),
   (0x3FFFE, 0x3FFFF), (0x4FFFE, 0x4FFFF), (0x5FFFE, 0x5FFFF), (0x6FFFE, 0x6FFFF),
   (0x7FFFE, 0x7FFFF), (0x8FFFE, 0x8FFFF), (0x9FFFE, 0x9FFFF), (0xAFFFE, 0xAFFFF),
   (0xBFFFE, 0xBFFFF), (0xCFFFE, 0xCFFFF), (0xDFFFE, 0xDFFFF), (0xE0001, 0xE0001),
   (0xE0020, 0xE007F), (0xEFFFE, 0x10FFFF)]

/-- Whether a code point lies in one of some ranges. -/
def inRanges (ranges : List (Nat × Nat)) (n : Nat) : Bool :=
  ranges.any fun (lo, hi) => lo ≤ n && n ≤ hi

/-- Whether text is ASCII. -/
def isAsciiText (s : String) : Bool := s.toList.all (·.toNat < 0x80)

/-- A label's length must lie in 1 to 63. -/
def checkLabelLength (s : String) : Except CodecError String :=
  if 0 < s.length && s.length < 64 then .ok s else .error (.plain "label empty or too long")

/-- A label encoded to ASCII for the comparison after decoding. -/
def labelToAscii (label : String) : Except CodecError String :=
  if isAsciiText label then checkLabelLength label
  else
    let kept := label.toList.filter fun c => !inRanges droppedInLabels c.toNat
    let prepared := Text.lower (String.ofList kept)
    match prepared.toList.find? fun c => inRanges prohibitedInLabels c.toNat with
    | some c => .error (.plain ("Invalid character " ++ Text.quoteLiteral c.toString))
    | none =>
      if isAsciiText prepared then checkLabelLength prepared
      else if prepared.startsWith "xn--" then .error (.plain "Label starts with ACE prefix")
      else checkLabelLength ("xn--" ++ String.ofList (Text.Punycode.encode prepared.toList))

/-- The literal of ASCII bytes. -/
def bytesLiteral (s : String) : String := "b" ++ Text.quoteLiteral s

/-- One label of the IDNA codec. -/
def labelToUnicode (ofPoint : Nat → Char) (label : List UInt8) : Except CodecError String :=
  if label.length > 1024 then .error (.plain "label way too long")
  else if label.take 4 ≠ acePrefix then asciiText label
  else do
    let text ← match decodePunycodeBytes ofPoint (label.drop 4) with
      | .error (.plain m) =>
        throw (.plain ("decoding with \x27punycode\x27 codec failed (UnicodeError: " ++ m ++ ")"))
      | r => r
    let back ← labelToAscii text
    let written ← asciiText label
    let lowered := String.ofList (written.toList.map Char.toLower)
    if lowered ≠ back then
      throw (.bare ("(\x27IDNA does not round-trip\x27, " ++ bytesLiteral written ++ ", " ++
        bytesLiteral back ++ ")"))
    pure text

/-- Decodes bytes with the IDNA codec. -/
def decodeIdnaBytes (ofPoint : Nat → Char) (bs : List UInt8) : Except CodecError String :=
  if bs.isEmpty then .ok ""
  else if !containsRun acePrefix bs && bs.all (· < 0x80) then asciiText bs
  else
    let labels := splitAt 0x2E bs
    let (labels, trailing) :=
      if labels.getLast? = some [] then (labels.dropLast, ".") else (labels, "")
    (labels.mapM (labelToUnicode ofPoint)).map fun ls => ".".intercalate ls ++ trailing

end StatementClient.Bytes
