import StatementClient.Bytes.Multibyte
import StatementClient.Bytes.Grid
import StatementClient.Bytes.Charset.Gb2312
import StatementClient.Bytes.Charset.Gbk
import StatementClient.Bytes.Charset.Big5

/-!
# Chinese encodings

Each of these reads a byte below 0x80 as ASCII and any other byte as the lead of a pair; a lead
byte at the end of the input is cut off, and a pair with no character is illegal at its lead.

* GB2312 is the extended UNIX code of GB 2312: both bytes from 0xA1.
* GBK reads three cells of its own first (the em dash, the horizontal bar and the middle dot),
  then GB 2312, then its extension.
* GB 18030 reads as GBK, then its own extension; a second byte from 0x30 to 0x39 begins a
  sequence of four bytes instead, which must be a lead byte, that digit, a lead byte and a
  digit. The first 39420 such sequences name the characters below U+10000 that no pair names, in
  runs; from lead byte 0x90 on they name the characters from U+10000 on, in order.
* HZ is 7-bit: `~{` switches to GB 2312, read from pairs of 7-bit bytes, and `~}` back; `~~`
  is a tilde and `~` before a line feed is dropped. Any other byte after `~` is illegal, as is
  any byte from 0x80.
* Big5 reads its one table; code page 950 its own cells first; Big5-HKSCS reads Big5 first
  (except in rows 0xC6 to 0xC8), then the Hong Kong supplement, and four pairs of its own are a
  letter with a combining mark.
-/

namespace StatementClient.Bytes

/-- The three cells GBK reads its own way before GB 2312. -/
def gbkOwn (b1 b2 : Nat) : Option String :=
  if b1 = 0xA1 && b2 = 0xAA then some "—"
  else if b1 = 0xA8 && b2 = 0x44 then some "―"
  else if b1 = 0xA1 && b2 = 0xA4 then some "·"
  else none

/-- The text of a GBK pair. -/
def gbkPair (b1 b2 : Nat) : Option String :=
  gbkOwn b1 b2 <|> Charset.gb2312.findHigh? b1 b2 <|> Charset.gbkExtension.find? b1 b2

/-- The text of a GB 18030 pair. -/
def gb18030Pair (b1 b2 : Nat) : Option String :=
  gbkPair b1 b2 <|> Charset.gb18030Extension.find? b1 b2

/-- The number of four-byte sequences that name characters below U+10000. -/
def gb18030BelowCount : Nat := 39420

/-- The character below U+10000 that the four-byte sequence with this index names. -/
def gb18030Below (index : Nat) : Char :=
  let (start, first) := (Charset.gb18030Runs.takeWhile (·.1 ≤ index)).getLast?.getD (0, 0x80)
  Char.ofNat (first + (index - start))

/-- The text of a GB 18030 sequence of four bytes whose second byte is a digit. -/
def gb18030Quad (b1 b2 b3 b4 : Nat) : Option String :=
  if b1 < 0x81 || b1 > 0xFE || b3 < 0x81 || b3 > 0xFE || b4 < 0x30 || b4 > 0x39 then none
  else
    let lead := b1 - 0x81
    let tail := (b3 - 0x81) * 10 + (b4 - 0x30)
    if lead < 4 then
      let index := (lead * 10 + (b2 - 0x30)) * 1260 + tail
      if index < gb18030BelowCount then some (gb18030Below index).toString else none
    else if lead ≥ 15 then
      let n := 0x10000 + ((lead - 15) * 10 + (b2 - 0x30)) * 1260 + tail
      if n ≤ 0x10FFFF then some (Char.ofNat n).toString else none
    else none

/-- One step of GB 18030. -/
def gb18030Step : List UInt8 → Step Unit
  | [] => .incomplete
  | b :: rest =>
    if b < 0x80 then .byte b.toNat
    else
      match rest with
      | [] => .incomplete
      | c :: more =>
        if 0x30 ≤ c && c ≤ 0x39 then
          match more with
          | d :: e :: _ => .of (gb18030Quad b.toNat c.toNat d.toNat e.toNat) 4
          | _ => .incomplete
        else .of (gb18030Pair b.toNat c.toNat) 2

/-- One step of HZ; the state says whether GB 2312 is on. -/
def hzStep (gb : Bool) : List UInt8 → Step Bool
  | [] => .incomplete
  | b :: rest =>
    if b = 0x7E then
      match rest with
      | [] => .incomplete
      | c :: _ =>
        if c = 0x7E && !gb then .emit "~" 2 gb
        else if c = 0x7B && !gb then .emit "" 2 true
        else if c = 0x0A && !gb then .emit "" 2 gb
        else if c = 0x7D && gb then .emit "" 2 false
        else .illegal 1
    else if b ≥ 0x80 then .illegal 1
    else if !gb then .emit (Char.ofNat b.toNat).toString 1 gb
    else
      match rest with
      | [] => .incomplete
      | c :: _ =>
        match Charset.gb2312.find94? b.toNat c.toNat with
        | some t => .emit t 2 gb
        | none => .illegal 1

/-- The text of a code page 950 pair. -/
def cp950Pair (b1 b2 : Nat) : Option String :=
  Charset.cp950Extension.find? b1 b2 <|> Charset.big5.find? b1 b2

/-- The four pairs of Big5-HKSCS that stand for a letter and a combining mark. -/
def hkscsMarked (b1 b2 : Nat) : Option String :=
  if b1 ≠ 0x88 then none
  else if b2 = 0x62 then some "Ê\u0304"
  else if b2 = 0x64 then some "Ê\u030C"
  else if b2 = 0xA3 then some "ê\u0304"
  else if b2 = 0xA5 then some "ê\u030C"
  else none

/-- The text of a Big5-HKSCS pair. -/
def big5hkscsPair (b1 b2 : Nat) : Option String :=
  let big5First := b1 < 0xC6 || b1 > 0xC8 || (b1 < 0xC7 && b2 < 0xA1)
  (if big5First then Charset.big5.find? b1 b2 else none) <|>
    Charset.hkscsExtension.find? b1 b2 <|> hkscsMarked b1 b2

example : gb18030Quad 0x81 0x30 0x81 0x30 = some "\u0080" ∧
    gb18030Quad 0x90 0x30 0x81 0x30 = some "𐀀" ∧ gb18030Quad 0x84 0x31 0xA5 0x30 = none := by
  decide

end StatementClient.Bytes
