import StatementClient.Bytes.Multibyte
import StatementClient.Bytes.Grid
import StatementClient.Bytes.Charset.JisX0208
import StatementClient.Bytes.Charset.JisX0212
import StatementClient.Bytes.Charset.JisX0213
import StatementClient.Bytes.Charset.Cp932

/-!
# Japanese encodings

Shift_JIS packs two rows of a 94-by-94 set into one lead byte (0x81 to 0x9F, then from 0xE0)
and the 188 cells of those rows into the trail bytes 0x40 to 0xFC, 0x7F aside; single bytes
from 0xA1 to 0xDF are halfwidth katakana. The extended UNIX code (EUC-JP) names a cell by its
row and column with the high bit set; 0x8E before a byte is halfwidth katakana and 0x8F before a
pair is a cell of the supplementary set.

* Shift_JIS reads JIS X 0208; code page 932 reads its own cells first, reads 0x80, 0xA0 and
  0xFD to 0xFF as single characters, and gives the lead bytes 0xF0 to 0xF9 to the private use
  area.
* Shift_JIS-2004 reads JIS X 0213 plane 1 through the first 94 rows of lead bytes, and the rows
  of plane 2 (1, 8, 3 to 5, 12 to 15 and 78 to 94) through the rest; ASCII 0x5C and 0x7E are the
  yen sign and the overline.
* EUC-JP reads JIS X 0208 and, after 0x8F, JIS X 0212; EUC-JIS-2004 reads JIS X 0213 plane 1
  and, after 0x8F, plane 2 and then JIS X 0212.

The codecs named for the 2000 edition of JIS X 0213 lack ten cells of plane 1, where a pair is
illegal as a whole, and read one cell of plane 2 as the 2000 edition had it.
-/

namespace StatementClient.Bytes

/-- The halfwidth katakana of a byte from 0xA1 to 0xDF. -/
def halfwidthKana? (b : Nat) : Option String :=
  if 0xA1 ≤ b && b ≤ 0xDF then some (Char.ofNat (0xFEC0 + b)).toString else none

/-- The character of an ASCII byte under JIS X 0201 Roman: the yen sign for the backslash and
the overline for the tilde. -/
def jisRomanChar (b : Nat) : Char :=
  if b = 0x5C then '¥' else if b = 0x7E then '‾' else Char.ofNat b

/-- The row (from zero; past 93 for the second plane) and the column (from 0x21) that a
Shift_JIS lead and trail byte name, when the trail byte is one Shift_JIS uses. -/
def shiftJisCell? (b1 b2 : Nat) : Option (Nat × Nat) :=
  if b2 < 0x40 || b2 = 0x7F || b2 > 0xFC then none
  else
    let lead := if b1 < 0xE0 then b1 - 0x81 else b1 - 0xC1
    let trail := if b2 < 0x80 then b2 - 0x40 else b2 - 0x41
    if trail < 0x5E then some (2 * lead, trail + 0x21)
    else some (2 * lead + 1, trail - 0x5E + 0x21)

/-- The JIS X 0208 text of a Shift_JIS pair. -/
def shiftJisPair (b1 b2 : Nat) : Option String :=
  (shiftJisCell? b1 b2).bind fun (row, col) => Charset.jisX0208.find94? (row + 0x21) col

/-- One step of Shift_JIS. -/
def shiftJisStep : List UInt8 → Step Unit
  | [] => .incomplete
  | b :: rest =>
    let n := b.toNat
    if n < 0x80 then .byte n
    else
      match halfwidthKana? n with
      | some t => .emit t 1 ()
      | none =>
        if (0x81 ≤ n && n ≤ 0x9F) || (0xE0 ≤ n && n ≤ 0xEA) then
          match rest with
          | [] => .incomplete
          | c :: _ => .of (shiftJisPair n c.toNat) 2
        else .illegal 1

/-- The private use character of a code page 932 pair with a lead byte from 0xF0 to 0xF9. -/
def cp932Private? (b1 b2 : Nat) : Option String :=
  if (0x40 ≤ b2 && b2 ≤ 0x7E) || (0x80 ≤ b2 && b2 ≤ 0xFC) then
    let trail := if b2 < 0x80 then b2 - 0x40 else b2 - 0x41
    some (Char.ofNat (0xE000 + 188 * (b1 - 0xF0) + trail)).toString
  else none

/-- The text of a code page 932 pair. -/
def cp932Pair (b1 b2 : Nat) : Option String :=
  Charset.cp932Extension.find? b1 b2 <|>
    if (0x81 ≤ b1 && b1 ≤ 0x9F) || (0xE0 ≤ b1 && b1 ≤ 0xEA) then shiftJisPair b1 b2
    else if 0xF0 ≤ b1 && b1 ≤ 0xF9 then cp932Private? b1 b2
    else none

/-- One step of code page 932. -/
def cp932Step : List UInt8 → Step Unit
  | [] => .incomplete
  | b :: rest =>
    let n := b.toNat
    if n ≤ 0x80 then .byte n
    else if n = 0xA0 then .byte 0xF8F0
    else if 0xA1 ≤ n && n ≤ 0xDF then .byte (0xFEC0 + n)
    else if n ≥ 0xFD then .byte (0xF8F1 - 0xFD + n)
    else
      match rest with
      | [] => .incomplete
      | c :: _ => .of (cp932Pair n c.toNat) 2

/-- The ten cells of JIS X 0213 plane 1 that the 2000 edition lacks. -/
def lackedIn2000 (r c : Nat) : Bool :=
  (r = 0x2E && c = 0x21) || (r = 0x2F && c = 0x7E) || (r = 0x4F && (c = 0x54 || c = 0x7E)) ||
    (r = 0x74 && c = 0x27) || (r = 0x7E && 0x7A ≤ c && c ≤ 0x7E)

/-- What a cell of JIS X 0213 plane 1 holds: `none` for a cell the 2000 edition lacks, when
`edition2000`, else the text, if any. -/
def jisX0213Plane1? (edition2000 : Bool) (r c : Nat) : Option (Option String) :=
  if edition2000 && lackedIn2000 r c then none
  else some (Charset.jisX0213Plane1.find94? r c)

/-- The text of a cell of JIS X 0213 plane 2; the 2000 edition has an older form at row 0x7D,
column 0x3B. -/
def jisX0213Plane2? (edition2000 : Bool) (r c : Nat) : Option String :=
  if edition2000 && r = 0x7D && c = 0x3B then some "鬝"
  else Charset.jisX0213Plane2.find94? r c

/-- The row of JIS X 0213 plane 2 (from 0x21) that a Shift_JIS-2004 row past 93 stands for. -/
def plane2Row (row : Nat) : Nat :=
  if row ≥ 0x67 then row + 0x07
  else if row ≥ 0x63 || row = 0x5F then row - 0x37
  else row - 0x3D

/-- The step of a pair read from a cell of JIS X 0213 plane 1: illegal as a whole in a cell the
2000 edition lacks. -/
def plane1Step (edition2000 : Bool) (r c : Nat) : Step Unit :=
  match jisX0213Plane1? edition2000 r c with
  | none => .illegal 2
  | some t => .of t 2

/-- One step of Shift_JIS-2004 (or of its 2000 edition). -/
def shiftJis2004Step (edition2000 : Bool) : List UInt8 → Step Unit
  | [] => .incomplete
  | b :: rest =>
    let n := b.toNat
    if n < 0x80 then .emit (jisRomanChar n).toString 1 ()
    else
      match halfwidthKana? n with
      | some t => .emit t 1 ()
      | none =>
        if (0x81 ≤ n && n ≤ 0x9F) || (0xE0 ≤ n && n ≤ 0xFC) then
          match rest with
          | [] => .incomplete
          | c :: _ =>
            match shiftJisCell? n c.toNat with
            | none => .illegal 1
            | some (row, col) =>
              if row < 0x5E then plane1Step edition2000 (row + 0x21) col
              else .of (jisX0213Plane2? edition2000 (plane2Row row) col) 2
        else .illegal 1

/-- One step of EUC-JP. -/
def eucJpStep : List UInt8 → Step Unit
  | [] => .incomplete
  | b :: rest =>
    let n := b.toNat
    if n < 0x80 then .byte n
    else
      match rest with
      | [] => .incomplete
      | c :: more =>
        if n = 0x8E then .of (halfwidthKana? c.toNat) 2
        else if n = 0x8F then
          match more with
          | [] => .incomplete
          | d :: _ => .of (Charset.jisX0212.findHigh? c.toNat d.toNat) 3
        else .of (Charset.jisX0208.findHigh? n c.toNat) 2

/-- One step of EUC-JIS-2004 (or of its 2000 edition). -/
def eucJis2004Step (edition2000 : Bool) : List UInt8 → Step Unit
  | [] => .incomplete
  | b :: rest =>
    let n := b.toNat
    if n < 0x80 then .byte n
    else
      match rest with
      | [] => .incomplete
      | c :: more =>
        let m := c.toNat
        if n = 0x8E then .of (halfwidthKana? m) 2
        else if n = 0x8F then
          match more with
          | [] => .incomplete
          | d :: _ =>
            let k := d.toNat
            let plane2 := if 0xA1 ≤ m && 0xA1 ≤ k then
              jisX0213Plane2? edition2000 (m - 0x80) (k - 0x80) else none
            .of (plane2 <|> Charset.jisX0212.findHigh? m k) 3
        else if n = 0xA1 && m = 0xC0 then .emit "＼" 2 ()
        else if n = 0xA2 && m = 0xB2 then .emit "～" 2 ()
        else if 0xA1 ≤ n && 0xA1 ≤ m then plane1Step edition2000 (n - 0x80) (m - 0x80)
        else .illegal 1

example : shiftJisCell? 0x88 0x9F = some (15, 0x21) ∧ shiftJisCell? 0x81 0x7F = none ∧
    plane2Row 0x5E = 0x21 ∧ plane2Row 0x5F = 0x28 ∧ plane2Row 0x77 = 0x7E := by
  decide

end StatementClient.Bytes
