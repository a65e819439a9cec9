import StatementClient.Bytes.Multibyte
import StatementClient.Bytes.Grid
import StatementClient.Bytes.Charset.KsX1001
import StatementClient.Bytes.Charset.Cp949

/-!
# Korean encodings

A hangul syllable is an initial consonant (19 of them), a vowel (21) and an optional final
consonant (27), numbered from U+AC00 as `588 * initial + 28 * vowel + final`, where the final
counts from one. The compatibility jamo from U+3131 are the letters themselves, consonants and
vowels in one list; `hangulInitials` and `hangulFinals` say where each consonant stands in it.

* EUC-KR reads KS X 1001 from pairs of bytes with the high bit set. A pair 0xA4 0xD4 (the hangul
  filler) begins a syllable spelt out in eight bytes: the filler, then an initial, a vowel and a
  final (or the filler for none), each as 0xA4 and the jamo of KS X 1001 row 4. If any of the
  three does not fit its place, the eight bytes are illegal at their first.
* Code page 949 reads KS X 1001 and then its extension, and has no such spelling.
* Johab gives lead bytes below 0xD8 to hangul, five bits for each of the three parts; a part
  may be the filler, and the filler for all three is the ideographic space. A lone letter is
  its compatibility jamo. From 0xD9 on, two rows of KS X 1001 (the symbols and hanja) share a
  lead byte, with 188 trail bytes from 0x31 and 0x91, as in Shift_JIS.
-/

namespace StatementClient.Bytes

/-- The positions, in the compatibility jamo from U+3131, of the 19 initial consonants in
syllable order. -/
def hangulInitials : List Nat :=
  [0, 1, 3, 6, 7, 8, 16, 17, 18, 20, 21, 22, 23, 24, 25, 26, 27, 28, 29]

/-- The positions, in the compatibility jamo from U+3131, of the 27 final consonants in
syllable order. -/
def hangulFinals : List Nat :=
  [0, 1, 2, 3, 4, 5, 6, 8, 9, 10, 11, 12, 13, 14, 15, 16, 17, 19, 20, 21, 22, 23, 25, 26, 27,
   28, 29]

/-- The syllable of an initial, a vowel and a final (zero for none). -/
def hangulSyllable (initial vowel final : Nat) : String :=
  (Char.ofNat (0xAC00 + initial * 588 + vowel * 28 + final)).toString

/-- The position from U+3131 of the jamo a byte of KS X 1001 row 4 names, for a consonant. -/
def consonantPosition? (b : Nat) : Option Nat :=
  if 0xA1 ≤ b && b ≤ 0xBE then some (b - 0xA1) else none

/-- The syllable EUC-KR spells out after the filler pair, from the jamo bytes of its initial,
vowel and final. -/
def eucKrSpelt (initial vowel final : Nat) : Option String := do
  let i ← (consonantPosition? initial).bind fun p => hangulInitials.idxOf? p
  let v ← if 0xBF ≤ vowel && vowel ≤ 0xD3 then some (vowel - 0xBF) else none
  let f ← if final = 0xD4 then some 0
    else ((consonantPosition? final).bind fun p => hangulFinals.idxOf? p).map (· + 1)
  some (hangulSyllable i v f)

/-- One step of EUC-KR. -/
def eucKrStep : List UInt8 → Step Unit
  | [] => .incomplete
  | b :: rest =>
    if b < 0x80 then .byte b.toNat
    else
      match rest with
      | [] => .incomplete
      | c :: more =>
        if b = 0xA4 && c = 0xD4 then
          match more with
          | a1 :: i :: a2 :: v :: a3 :: f :: _ =>
            if a1 = 0xA4 && a2 = 0xA4 && a3 = 0xA4 then .of (eucKrSpelt i.toNat v.toNat f.toNat) 8
            else .illegal 1
          | _ => .incomplete
        else .of (Charset.ksX1001.findHigh? b.toNat c.toNat) 2

/-- The text of a code page 949 pair. -/
def cp949Pair (b1 b2 : Nat) : Option String :=
  Charset.ksX1001.findHigh? b1 b2 <|> Charset.cp949Extension.find? b1 b2

/-- A part of a Johab syllable: the filler, or a letter by its number. -/
inductive JohabPart where
  | filler
  | letter (n : Nat)
  deriving DecidableEq

/-- The initial consonant of a five-bit Johab code. -/
def johabInitial (k : Nat) : Option JohabPart :=
  if k = 1 then some .filler else if 2 ≤ k && k ≤ 20 then some (.letter (k - 2)) else none

/-- The vowel of a five-bit Johab code. -/
def johabVowel (k : Nat) : Option JohabPart :=
  if k = 2 then some .filler
  else if 3 ≤ k && k ≤ 7 then some (.letter (k - 3))
  else if 10 ≤ k && k ≤ 15 then some (.letter (k - 5))
  else if 18 ≤ k && k ≤ 23 then some (.letter (k - 7))
  else if 26 ≤ k && k ≤ 29 then some (.letter (k - 9))
  else none

/-- The final consonant of a five-bit Johab code, counted from one. -/
def johabFinal (k : Nat) : Option JohabPart :=
  if k = 1 then some .filler
  else if 2 ≤ k && k ≤ 17 then some (.letter (k - 1))
  else if 19 ≤ k && k ≤ 29 then some (.letter (k - 2))
  else none

/-- The compatibility jamo at a position from U+3131. -/
def jamo (position : Nat) : String := (Char.ofNat (0x3131 + position)).toString

/-- The text of a Johab hangul pair. -/
def johabHangul (b1 b2 : Nat) : Option String := do
  let i ← johabInitial (b1 / 4 % 32)
  let v ← johabVowel ((b1 * 8 + b2 / 32) % 32)
  let f ← johabFinal (b2 % 32)
  match i, v, f with
  | .filler, .filler, .filler => some "\u3000"
  | .filler, .filler, .letter n => jamo <$> hangulFinals[n - 1]?
  | .filler, .letter n, .filler => some (jamo (30 + n))
  | .letter n, .filler, .filler => jamo <$> hangulInitials[n]?
  | .letter n, .letter m, .filler => some (hangulSyllable n m 0)
  | .letter n, .letter m, .letter k => some (hangulSyllable n m k)
  | _, _, _ => none

/-- The text of a Johab pair of the symbols and hanja, from lead byte 0xD9. -/
def johabSymbol (b1 b2 : Nat) : Option String :=
  if b1 < 0xD9 || b1 = 0xDF || b1 > 0xF9 || b2 < 0x31 || (0x80 ≤ b2 && b2 < 0x91) ||
      b2 % 0x80 = 0x7F || (b1 = 0xDA && 0xA1 ≤ b2 && b2 ≤ 0xD3) then none
  else
    let lead := if b1 < 0xE0 then 2 * (b1 - 0xD9) else 2 * b1 - 0x197
    let trail := if b2 < 0x91 then b2 - 0x31 else b2 - 0x43
    if trail < 0x5E then Charset.ksX1001.find94? (lead + 0x21) (trail + 0x21)
    else Charset.ksX1001.find94? (lead + 0x22) (trail - 0x5E + 0x21)

/-- The text of a Johab pair. -/
def johabPair (b1 b2 : Nat) : Option String :=
  if b1 < 0xD8 then johabHangul b1 b2 else johabSymbol b1 b2

example : johabHangul 0x88 0x61 = some "가" ∧ johabHangul 0x88 0x41 = some "ㄱ" ∧
    eucKrSpelt 0xA1 0xBF 0xD4 = some "가" := by
  decide

end StatementClient.Bytes
