import StatementClient.Bytes.Multibyte
import StatementClient.Bytes.Grid
import StatementClient.Bytes.Japanese
import StatementClient.Bytes.Charset.Gb2312
import StatementClient.Bytes.Charset.KsX1001

/-!
# ISO-2022 encodings

An ISO-2022 stream is 7-bit and switches between character sets with escape sequences. Of its
four slots G0 to G3, these encodings use three: G0, which the graphic bytes 0x20 to 0x7F read
from; G1, which they read from after SO (0x0E) until SI (0x0F) or a line feed, where the
encoding shifts at all; and G2, which ESC N reads one character from, where the encoding has a
single shift. All three start as ASCII.

An escape sequence is ESC, one of `(`, `)`, `$`, `.` and `&`, and bytes up to a final byte
(`@` or a capital letter), at most 16 bytes in all; in the Japanese encodings `&@` may stand
early in it and is skipped with the byte after it. It then designates a set:

* three bytes: `$` and a final byte put a double-byte set in G0; `(`, `)` or (with a single
  shift) `.` and a final byte put a single-byte set in G0, G1 or G2;
* four bytes: `$`, then `(` or `)`, and a final byte put a double-byte set in G0 or G1;
* six bytes, in the Japanese encodings, ending in ESC `$` `B`: JIS X 0208 in G0.

The final byte `B` as a single-byte set is ASCII everywhere; any other set must be one the
encoding knows. A sequence that designates nothing is illegal over its length, one with no final
byte within 16 bytes is illegal at its ESC, and one cut off by the end of the input is
incomplete. ESC before any other byte is kept, and so is every byte after it up to and with the
next final byte.

Control bytes other than ESC, SO and SI pass through, and bytes from 0x80 are illegal. A
character a set lacks is illegal over its width. The sets ISO-8859-1 and ISO-8859-7 hold their
upper halves, and are read only through the single shift.
-/

namespace StatementClient.Bytes

/-- The character sets an ISO-2022 stream can designate. -/
inductive GraphicSet where
  | ascii
  | jisRoman
  | jisKana
  | latinUpper
  | greekUpper
  | jisX0208
  | jisX0212
  | gb2312
  | ksX1001
  /-- JIS X 0213 plane 1, of the 2000 edition or the 2004 one. -/
  | jisX0213Plane1 (edition2000 : Bool)
  | jisX0213Plane2
  deriving DecidableEq, Inhabited

/-- How many bytes a character of the set takes. -/
def GraphicSet.width : GraphicSet → Nat
  | .ascii | .jisRoman | .jisKana | .latinUpper | .greekUpper => 1
  | _ => 2

/-- The text a set gives to the graphic byte `b1`, followed by `b2` for a double-byte set. -/
def GraphicSet.read (g : GraphicSet) (b1 b2 : Nat) : Option String :=
  match g with
  | .ascii => some (Char.ofNat b1).toString
  | .jisRoman => some (jisRomanChar b1).toString
  | .jisKana => if 0x21 ≤ b1 && b1 ≤ 0x5F then halfwidthKana? (b1 + 0x80) else none
  | .latinUpper => none
  | .greekUpper => none
  | .jisX0208 => Charset.jisX0208.find94? b1 b2
  | .jisX0212 => Charset.jisX0212.find94? b1 b2
  | .gb2312 => Charset.gb2312.find94? b1 b2
  | .ksX1001 => Charset.ksX1001.find94? b1 b2
  | .jisX0213Plane1 edition2000 =>
    if b1 = 0x21 && b2 = 0x40 then some "＼"
    else (jisX0213Plane1? edition2000 b1 b2).join
  | .jisX0213Plane2 => Charset.jisX0213Plane2.find94? b1 b2

/-- The upper half of ISO-8859-7, from 0xA0, as the single shift reads it: a space marks the
six bytes it leaves out. -/
def greekUpperHalf : Array Char :=
  ("\u00A0‘’£  ¦§¨© «¬\u00AD ―°±²³΄΅Ά·ΈΉΊ»Ό½ΎΏ" ++
    "ΐΑΒΓΔΕΖΗΘΙΚΛΜΝΞΟΠΡ ΣΤΥΦΧΨΩΪΫάέήί" ++
    "ΰαβγδεζηθικλμνξοπρςστυφχψωϊϋόύώ ").toList.toArray

/-- The character ISO-8859-7 gives to a byte, the byte after the single shift having its high
bit flipped. -/
def greekByte? (b : Nat) : Option Char :=
  let x := if b < 0x80 then b + 0x80 else b - 0x80
  if x < 0xA0 then some (Char.ofNat x)
  else
    match greekUpperHalf[x - 0xA0]? with
    | some c => if c = ' ' then none else some c
    | none => none

/-- An ISO-2022 encoding: its name, whether SO and SI switch to G1, whether it has the single
shift to G2, whether `&@` may stand in an escape sequence, and the sets its escape sequences can
designate, by final byte and whether the set is double-byte. -/
structure Iso2022Scheme where
  name : String
  shifts : Bool
  singleShift : Bool
  revisions : Bool
  sets : List ((Nat × Bool) × GraphicSet)
  deriving Inhabited

/-- Where an ISO-2022 decoder stands: the sets in G0 to G2, whether SO is in force, and whether
bytes pass through after an escape sequence it does not know. -/
structure Iso2022State where
  g0 : GraphicSet := .ascii
  g1 : GraphicSet := .ascii
  g2 : GraphicSet := .ascii
  shifted : Bool := false
  passing : Bool := false
  deriving Inhabited

/-- The state with set `g` designated to slot `slot` (0 to 2). -/
def Iso2022State.designate (st : Iso2022State) (slot : Nat) (g : GraphicSet) : Iso2022State :=
  if slot = 0 then { st with g0 := g } else if slot = 1 then { st with g1 := g }
  else { st with g2 := g }

/-- The longest escape sequence. -/
def maxEscape : Nat := 16

/-- Whether a byte ends an escape sequence: `@` or a capital letter. -/
def isFinalByte (b : Nat) : Bool := b = 0x40 || (0x41 ≤ b && b ≤ 0x5A)

/-- How the escape sequence at the front of the input ends. -/
inductive EscapeEnd where
  /-- The input ends before the final byte. -/
  | short
  /-- No final byte within `maxEscape` bytes. -/
  | unterminated
  /-- The final byte ends a sequence of `length` bytes. -/
  | final (length : Nat)

/-- The end of the escape sequence at the front of `bs`, scanning from position `i`. -/
def scanEscape (revisions : Bool) (bs : List UInt8) (i : Nat) : EscapeEnd :=
  if i < maxEscape then
    match bs[i]? with
    | none => .short
    | some b =>
      if isFinalByte b.toNat then .final (i + 1)
      else if revisions && b = 0x26 && bs[i + 1]? = some 0x40 then scanEscape revisions bs (i + 3)
      else scanEscape revisions bs (i + 1)
  else .unterminated
termination_by maxEscape - i

/-- The slot and set that an escape sequence of `len` bytes at the front of `bs` designates, or
the width of the illegal sequence. -/
def designation (sch : Iso2022Scheme) (bs : List UInt8) (len : Nat) :
    Except Nat (Nat × GraphicSet) := do
  let at? (i : Nat) : Nat := (bs[i]?.map UInt8.toNat).getD 0
  let (final, double, slot) ← match len with
    | 3 =>
      if at? 1 = 0x24 then pure (at? 2, true, 0)
      else if at? 1 = 0x28 then pure (at? 2, false, 0)
      else if at? 1 = 0x29 then pure (at? 2, false, 1)
      else if sch.singleShift && at? 1 = 0x2E then pure (at? 2, false, 2)
      else throw 3
    | 4 =>
      if at? 1 ≠ 0x24 then throw 4
      else if at? 2 = 0x28 then pure (at? 3, true, 0)
      else if at? 2 = 0x29 then pure (at? 3, true, 1)
      else throw 4
    | 6 =>
      if sch.revisions && at? 3 = 0x1B && at? 4 = 0x24 && at? 5 = 0x42 then pure (0x42, true, 0)
      else throw 6
    | n => throw n
  if final = 0x42 && !double then pure (slot, .ascii)
  else
    match sch.sets.lookup (final, double) with
    | some g => pure (slot, g)
    | none => throw len

/-- The character the single shift reads from byte `b`, through the set in G2. -/
def singleShiftStep (st : Iso2022State) (b : Nat) : Step Iso2022State :=
  match st.g2 with
  | .ascii => if b < 0x80 then .emit (Char.ofNat b).toString 3 st else .illegal 3
  | .latinUpper => if b < 0x80 then .emit (Char.ofNat (b + 0x80)).toString 3 st else .illegal 3
  | .greekUpper =>
    match greekByte? b with
    | some c => .emit c.toString 3 st
    | none => .illegal 3
  | _ => .internal

/-- Whether a byte after ESC begins an escape sequence. -/
def opensEscape (b : Nat) : Bool := [0x28, 0x29, 0x24, 0x2E, 0x26].contains b

/-- The step after ESC. -/
def escapeStep (sch : Iso2022Scheme) (st : Iso2022State) (bs : List UInt8) : Step Iso2022State :=
  match bs with
  | _ :: c :: more =>
    if opensEscape c.toNat then
      match scanEscape sch.revisions bs 1 with
      | .short => .incomplete
      | .unterminated => .illegal 1
      | .final len =>
        match designation sch bs len with
        | .error width => .illegal width
        | .ok (slot, g) => .emit "" len (st.designate slot g)
    else if sch.singleShift && c = 0x4E then
      match more with
      | [] => .incomplete
      | d :: _ => singleShiftStep st d.toNat
    else .emit "\x1b" 1 { st with passing := true }
  | _ => .incomplete

/-- One step of an ISO-2022 encoding. -/
def iso2022Step (sch : Iso2022Scheme) (st : Iso2022State) : List UInt8 → Step Iso2022State
  | [] => .incomplete
  | b :: rest =>
    let n := b.toNat
    if st.passing then .emit (Char.ofNat n).toString 1 { st with passing := !isFinalByte n }
    else if n = 0x1B then escapeStep sch st (b :: rest)
    else if sch.shifts && (n = 0x0E || n = 0x0F) then .emit "" 1 { st with shifted := n = 0x0E }
    else if n = 0x0A then .emit "\n" 1 { st with shifted := false }
    else if n < 0x20 then .emit (Char.ofNat n).toString 1 st
    else if n ≥ 0x80 then .illegal 1
    else
      let g := if st.shifted then st.g1 else st.g0
      if g.width = 1 then
        match g.read n 0 with
        | some t => .emit t 1 st
        | none => .illegal 1
      else
        match rest with
        | [] => .incomplete
        | c :: _ =>
          match g.read n c.toNat with
          | some t => .emit t 2 st
          | none => .illegal 2

/-- The sets of ISO-2022-JP. -/
def jpSets : List ((Nat × Bool) × GraphicSet) :=
  [((0x42, true), .jisX0208), ((0x40, true), .jisX0208), ((0x4A, false), .jisRoman)]

/-- ISO-2022-JP: JIS X 0208 (both editions) and JIS X 0201 Roman. -/
def iso2022Jp : Iso2022Scheme := ⟨"iso2022_jp", false, false, true, jpSets⟩

/-- ISO-2022-JP-1: ISO-2022-JP and JIS X 0212. -/
def iso2022Jp1 : Iso2022Scheme :=
  ⟨"iso2022_jp_1", false, false, true, jpSets ++ [((0x44, true), .jisX0212)]⟩

/-- ISO-2022-JP-2: ISO-2022-JP-1, GB 2312, KS X 1001, and the upper halves of ISO-8859-1 and
ISO-8859-7 through the single shift. -/
def iso2022Jp2 : Iso2022Scheme :=
  ⟨"iso2022_jp_2", false, true, true, jpSets ++
    [((0x44, true), .jisX0212), ((0x41, false), .latinUpper), ((0x46, false), .greekUpper),
     ((0x41, true), .gb2312), ((0x43, true), .ksX1001)]⟩

/-- ISO-2022-JP-2004: JIS X 0208 and JIS X 0213 (2004). -/
def iso2022Jp2004 : Iso2022Scheme :=
  ⟨"iso2022_jp_2004", false, false, true,
    [((0x42, true), .jisX0208), ((0x50, true), .jisX0213Plane2),
     ((0x51, true), .jisX0213Plane1 false)]⟩

/-- ISO-2022-JP-3: JIS X 0208 and JIS X 0213 (2000). -/
def iso2022Jp3 : Iso2022Scheme :=
  ⟨"iso2022_jp_3", false, false, true,
    [((0x42, true), .jisX0208), ((0x4F, true), .jisX0213Plane1 true),
     ((0x50, true), .jisX0213Plane2)]⟩

/-- ISO-2022-JP-EXT: ISO-2022-JP-1 and JIS X 0201 Katakana. -/
def iso2022JpExt : Iso2022Scheme :=
  ⟨"iso2022_jp_ext", false, false, true,
    jpSets ++ [((0x49, false), .jisKana), ((0x44, true), .jisX0212)]⟩

/-- ISO-2022-KR: KS X 1001, reached by SO. -/
def iso2022Kr : Iso2022Scheme := ⟨"iso2022_kr", true, false, false, [((0x43, true), .ksX1001)]⟩

example : scanEscape true [0x1B, 0x26, 0x40, 0x1B, 0x24, 0x42] 1 matches .final 6 := by
  simp [scanEscape, isFinalByte, maxEscape]

end StatementClient.Bytes
