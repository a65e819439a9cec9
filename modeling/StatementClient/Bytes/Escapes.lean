import StatementClient.Bytes.Codec
import StatementClient.Text.Names

/-!
# Backslash escapes in bytes

Two codecs read bytes as Latin-1 text in which backslash escapes stand for other characters.

The full escape codec (`decodeEscapes`) knows the escapes of string literals: a backslash before
a newline vanishes; `\\`, `\'`, `\"`, `\b`, `\f`, `\t`, `\n`, `\r`, `\v` and `\a` stand for
one character; one to three octal digits give a code point below 0o1000; `\x`, `\u` and `\U`
take exactly two, four and eight hex digits, and the code point must not pass U+10FFFF;
`\N{name}` names a character. Any other escape stays as it is written, backslash included. A
backslash that ends the bytes is refused.

The raw escape codec (`decodeRawEscapes`) knows only `\u` and `\U`, and only after an odd number
of backslashes; every other byte, backslashes included, stays as it is.

A refused escape spans from its backslash to the first byte that is no hex digit, or to the end.
A `\N{name}` escape is refused as unknown when no character has that name, and as malformed when
the name is empty or its closing brace is missing.
-/

namespace StatementClient.Bytes

/-- The value of an ASCII hex digit. -/
def hexDigit? (b : UInt8) : Option Nat :=
  let n := b.toNat
  if 0x30 ≤ n ∧ n ≤ 0x39 then some (n - 0x30)
  else if 0x61 ≤ n ∧ n ≤ 0x66 then some (n - 0x61 + 10)
  else if 0x41 ≤ n ∧ n ≤ 0x46 then some (n - 0x41 + 10)
  else none

/-- The leading hex digits of some bytes, at most `count` of them, with their value. -/
def leadingHex (count : Nat) (bs : List UInt8) : List Nat :=
  ((bs.take count).takeWhile fun b => (hexDigit? b).isSome).filterMap hexDigit?

/-- The value of hex digits, most significant first. -/
def hexValue (ds : List Nat) : Nat :=
  ds.foldl (fun n d => 16 * n + d) 0

/-- The character of a one-letter escape. -/
def letterEscape (b : UInt8) : Option Char :=
  match b.toNat with
  | 0x5C => some '\\'
  | 0x27 => some '\x27'
  | 0x22 => some '"'
  | 0x62 => some (Char.ofNat 8)
  | 0x66 => some (Char.ofNat 12)
  | 0x74 => some '\t'
  | 0x6E => some '\n'
  | 0x72 => some '\r'
  | 0x76 => some (Char.ofNat 11)
  | 0x61 => some (Char.ofNat 7)
  | _ => none

/-- Whether a byte is an ASCII octal digit. -/
def isOctal (b : UInt8) : Bool := 0x30 ≤ b && b ≤ 0x37

/-- The fault of an escape of the codec `codec` spanning `[start, stop)`. -/
def escapeFault (codec : String) (start stop : Nat) (reason : Reason) : Undecodable :=
  { codec, start, stop, firstByte := 0x5C, reason }

/-- A hex escape of `count` digits whose letter `letter` sits after the backslash at `pos`;
`more` follows the letter. Answers the character and what follows its digits. -/
def hexEscape (codec : String) (pos : Nat) (letter : Char) (count : Nat) (tooLarge : Reason)
    (more : List UInt8) : Except Undecodable (Char × List UInt8) :=
  let ds := leadingHex count more
  if ds.length < count then
    .error (escapeFault codec pos (pos + 2 + ds.length) (.truncatedHexEscape letter count))
  else
    let n := hexValue ds
    if n > 0x10FFFF then .error (escapeFault codec pos (pos + 2 + count) tooLarge)
    else .ok (charOf n, more.drop count)

/-- A `\N` escape whose backslash is at `pos`; `more` follows the `N`. Answers the character
and what follows the closing brace. -/
def nameEscape (pos : Nat) (more : List UInt8) : Except Undecodable (Char × List UInt8) :=
  match more with
  | 0x7B :: rest =>
    let name := rest.takeWhile (· ≠ 0x7D)
    if name.length = rest.length then
      .error (escapeFault "unicodeescape" pos (pos + 3 + rest.length) .malformedNameEscape)
    else if name.isEmpty then .error (escapeFault "unicodeescape" pos (pos + 3) .malformedNameEscape)
    else
      match Text.codeOfName? (name.map fun b => Char.ofNat b.toNat) with
      | some n => .ok (charOf n, rest.drop (name.length + 1))
      | none =>
        .error (escapeFault "unicodeescape" pos (pos + 4 + name.length) .unknownCharacterName)
  | _ => .error (escapeFault "unicodeescape" pos (pos + 2) .malformedNameEscape)

/-- The full escape codec from position `pos`; every step consumes a byte, so fuel above the
number of bytes is enough. -/
def escapesFrom (fuel pos : Nat) (acc : Array Char) (bs : List UInt8) :
    Except Undecodable (Array Char) :=
  match fuel, bs with
  | 0, _ => .ok acc
  | _, [] => .ok acc
  | fuel + 1, b :: rest =>
    if b ≠ 0x5C then escapesFrom fuel (pos + 1) (acc.push (Char.ofNat b.toNat)) rest
    else
      match rest with
      | [] => .error (escapeFault "unicodeescape" pos (pos + 1) .backslashAtEnd)
      | e :: more =>
        if e = 0x0A then escapesFrom fuel (pos + 2) acc more
        else match letterEscape e with
        | some c => escapesFrom fuel (pos + 2) (acc.push c) more
        | none =>
          if isOctal e then
            let ds := (more.take 2).takeWhile isOctal
            let n := (e :: ds).foldl (fun n d => 8 * n + (d.toNat - 0x30)) 0
            escapesFrom fuel (pos + 2 + ds.length) (acc.push (Char.ofNat n)) (more.drop ds.length)
          else
            let wide : Option (Char × Nat) :=
              if e = 0x78 then some ('x', 2)
              else if e = 0x75 then some ('u', 4)
              else if e = 0x55 then some ('U', 8)
              else none
            match wide with
            | some (letter, count) =>
              match hexEscape "unicodeescape" pos letter count .illegalUnicodeCharacter more with
              | .error u => .error u
              | .ok (c, after) => escapesFrom fuel (pos + 2 + count) (acc.push c) after
            | none =>
              if e = 0x4E then
                match nameEscape pos more with
                | .error u => .error u
                | .ok (c, after) =>
                  escapesFrom fuel (pos + 2 + (more.length - after.length)) (acc.push c) after
              else escapesFrom fuel (pos + 2) ((acc.push '\\').push (Char.ofNat e.toNat)) more

/-- Decodes bytes with the full escape codec. -/
def decodeEscapes (bs : List UInt8) : Except Undecodable String :=
  (escapesFrom (bs.length + 1) 0 #[] bs).map fun cs => String.ofList cs.toList

/-- The raw escape codec from position `pos`; every step consumes a byte, so fuel above the
number of bytes is enough. -/
def rawEscapesFrom (fuel pos : Nat) (acc : Array Char) (bs : List UInt8) :
    Except Undecodable (Array Char) :=
  match fuel, bs with
  | 0, _ => .ok acc
  | _, [] => .ok acc
  | fuel + 1, b :: rest =>
    if b ≠ 0x5C then rawEscapesFrom fuel (pos + 1) (acc.push (Char.ofNat b.toNat)) rest
    else
      let run := (rest.takeWhile (· = 0x5C)).length + 1
      let after := rest.drop (run - 1)
      let backslashes := (List.replicate (run - 1) '\\').foldl Array.push acc
      let start := pos + run - 1
      match after with
      | e :: more =>
        if run % 2 = 1 && (e = 0x75 || e = 0x55) then
          let (letter, count) := if e = 0x75 then ('u', 4) else ('U', 8)
          match hexEscape "rawunicodeescape" start letter count .wideEscapeOutOfRange more with
          | .error u => .error u
          | .ok (c, rest') => rawEscapesFrom fuel (start + 2 + count) (backslashes.push c) rest'
        else rawEscapesFrom fuel (pos + run) (backslashes.push '\\') after
      | [] => .ok (backslashes.push '\\')

/-- Decodes bytes with the raw escape codec. -/
def decodeRawEscapes (bs : List UInt8) : Except Undecodable String :=
  (rawEscapesFrom (bs.length + 1) 0 #[] bs).map fun cs => String.ofList cs.toList

end StatementClient.Bytes
