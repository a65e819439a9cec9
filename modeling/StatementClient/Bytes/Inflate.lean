/-!
# Inflating compressed bodies

A body may arrive compressed, as a gzip member or as deflate data with or without the zlib
wrapper. This module undoes the three as a streaming decoder
handed the whole body at once does:

* decoding runs until the stream ends, the input runs out, or the data turns out corrupt;
* input that runs out is no error: the output so far is the result;
* corrupt data is an error, whose text names the rule broken, such as `invalid block type` or
  `incorrect header check`;
* bytes after the end of the stream are ignored.

Data is read bit by bit, least significant bit first. Huffman codes are canonical and are decoded
one bit at a time; a table is refused when its code is over-subscribed, or incomplete unless it is
a lone code of one bit (or, for the code of code lengths, any incompleteness). A table without
codes is accepted and fails only when a symbol is read from it; the code of code lengths without
codes reads every length as `0` from one bit.
-/

namespace StatementClient.Bytes

/-- How reading a piece of compressed data went: a value and the bit position after it, the
input ran out, or the data is corrupt. -/
inductive Piece (α : Type) where
  | read (a : α) (pos : Nat)
  | short
  | corrupt (why : String)

/-- A reading of compressed data from a bit position. -/
def Reading (α : Type) : Type := Array UInt8 → Nat → Piece α

instance : Monad Reading where
  pure a := fun _ pos => .read a pos
  bind x f := fun d pos =>
    match x d pos with
    | .read a pos' => f a d pos'
    | .short => .short
    | .corrupt why => .corrupt why

namespace Reading

/-- Corrupt data. -/
def fail {α : Type} (why : String) : Reading α := fun _ _ => .corrupt why

/-- The next bit. -/
def bit : Reading Nat := fun d pos =>
  match d[pos / 8]? with
  | some b => .read ((b.toNat >>> (pos % 8)) % 2) (pos + 1)
  | none => .short

/-- The next `n` bits as a number, the first bit the least significant. -/
def bits : Nat → Reading Nat
  | 0 => pure 0
  | n + 1 => do
    let low ← bit
    let high ← bits n
    pure (low + 2 * high)

/-- The position moved on to the next byte boundary. -/
def align : Reading Unit := fun _ pos => .read () ((pos + 7) / 8 * 8)

/-- The next byte. -/
def byte : Reading Nat := bits 8

/-- The next `n` bytes as a little-endian number. -/
def littleEndian (n : Nat) : Reading Nat := bits (8 * n)

/-- `n` bytes skipped. -/
def skipBytes (n : Nat) : Reading Unit := fun d pos =>
  if pos / 8 + n ≤ d.size then .read () (pos + 8 * n) else .short

/-- Bytes skipped up to and including a zero byte. -/
def skipText : Nat → Reading Unit
  | 0 => fun _ _ => .short
  | fuel + 1 => do
    if (← byte) = 0 then pure () else skipText fuel

/-- The bytes before the position. -/
def consumed : Reading (List UInt8) := fun d pos => .read (d.extract 0 (pos / 8)).toList pos

end Reading

/-- The CRC-32 of bytes, reflected, with the polynomial `0xEDB88320`. -/
def crc32 (bs : List UInt8) : UInt32 :=
  let step (c : UInt32) (b : UInt8) : UInt32 :=
    (List.range 8).foldl (fun c _ => if c &&& 1 = 1 then (c >>> 1) ^^^ 0xEDB88320 else c >>> 1)
      (c ^^^ b.toUInt32)
  bs.foldl step 0xFFFFFFFF ^^^ 0xFFFFFFFF

/-- The Adler-32 checksum of bytes. -/
def adler32 (bs : List UInt8) : Nat :=
  let (a, b) := bs.foldl (fun (a, b) x =>
    let a := (a + x.toNat) % 65521
    (a, (b + a) % 65521)) (1, 0)
  b * 65536 + a

/-- A canonical Huffman code: how many codes there are of each length, the symbols in code
order, and the longest length. -/
structure Huffman where
  counts : Array Nat
  symbols : Array Nat
  maxLen : Nat

namespace Huffman

/-- The code of the given lengths (`0` for an unused symbol). -/
def ofLengths (lens : Array Nat) : Huffman :=
  let counts := (List.range 16).map fun l => (lens.toList.filter (· = l)).length
  let symbols := (List.range 16).flatMap fun l =>
    if l = 0 then [] else (List.range lens.size).filter fun s => lens.getD s 0 = l
  let maxLen := ((List.range 16).filter fun l => l ≠ 0 && counts.getD l 0 ≠ 0).getLast?.getD 0
  ⟨counts.toArray, symbols.toArray, maxLen⟩

/-- The codes still unused after each length, or none when some length is over-subscribed. -/
def unused (h : Huffman) : Option Int :=
  (List.range 15).foldl (fun left l =>
    left.bind fun left =>
      let left := 2 * left - (h.counts.getD (l + 1) 0 : Int)
      if left < 0 then none else some left) (some 1)

/-- Whether a code may be used: not over-subscribed, and complete unless it is empty or, when
`mustBeComplete` is not set, a lone code of one bit. -/
def acceptable (h : Huffman) (mustBeComplete : Bool) : Bool :=
  h.maxLen = 0 ||
    match h.unused with
    | none => false
    | some left => left = 0 || (!mustBeComplete && h.maxLen = 1)

/-- Decoding from length `len` on, with `code` read so far, `first` the first code of that
length and `index` the place of its symbols. -/
def decodeFrom (h : Huffman) : Nat → Nat → Nat → Nat → Nat → Reading (Option Nat)
  | 0, _, _, _, _ => pure none
  | r + 1, len, code, first, index => do
    let code := code + (← Reading.bit)
    let count := h.counts.getD len 0
    if code < first + count then pure h.symbols[index + (code - first)]?
    else decodeFrom h r (len + 1) (2 * code) (2 * (first + count)) (index + count)

/-- The next symbol, or none for a run of bits that is no code. -/
def decode (h : Huffman) : Reading (Option Nat) :=
  if h.maxLen = 0 then do
    let _ ← Reading.bit
    pure none
  else decodeFrom h h.maxLen 1 0 0 0

end Huffman

/-- Base lengths of the length symbols `257` to `285`. -/
def lengthBase : Array Nat :=
  #[3, 4, 5, 6, 7, 8, 9, 10, 11, 13, 15, 17, 19, 23, 27, 31, 35, 43, 51, 59, 67, 83, 99, 115,
    131, 163, 195, 227, 258]

/-- Extra bits of the length symbols. -/
def lengthExtra : Array Nat :=
  #[0, 0, 0, 0, 0, 0, 0, 0, 1, 1, 1, 1, 2, 2, 2, 2, 3, 3, 3, 3, 4, 4, 4, 4, 5, 5, 5, 5, 0]

/-- Base distances of the distance symbols `0` to `29`. -/
def distanceBase : Array Nat :=
  #[1, 2, 3, 4, 5, 7, 9, 13, 17, 25, 33, 49, 65, 97, 129, 193, 257, 385, 513, 769, 1025, 1537,
    2049, 3073, 4097, 6145, 8193, 12289, 16385, 24577]

/-- Extra bits of the distance symbols. -/
def distanceExtra : Array Nat :=
  #[0, 0, 0, 0, 1, 1, 2, 2, 3, 3, 4, 4, 5, 5, 6, 6, 7, 7, 8, 8, 9, 9, 10, 10, 11, 11, 12, 12, 13,
    13]

/-- The fixed literal/length code. -/
def fixedLiterals : Huffman :=
  Huffman.ofLengths ((List.range 288).map fun s =>
    if s < 144 then 8 else if s < 256 then 9 else if s < 280 then 7 else 8).toArray

/-- The fixed distance code. -/
def fixedDistances : Huffman := Huffman.ofLengths (Array.replicate 32 5)

/-- One decoded item of a block. -/
inductive Item where
  | literal (b : UInt8)
  | finish
  | copy (length distance : Nat)

/-- The next item of a block coded by `lit` and `dist`. -/
def item (lit dist : Huffman) : Reading Item := do
  match ← lit.decode with
  | none => Reading.fail "invalid literal/length code"
  | some s =>
    if s < 256 then pure (.literal (UInt8.ofNat s))
    else if s = 256 then pure .finish
    else if s ≥ 286 then Reading.fail "invalid literal/length code"
    else
      let length := lengthBase.getD (s - 257) 0 + (← Reading.bits (lengthExtra.getD (s - 257) 0))
      match ← dist.decode with
      | none => Reading.fail "invalid distance code"
      | some ds =>
        if ds ≥ 30 then Reading.fail "invalid distance code"
        else
          let distance := distanceBase.getD ds 0 + (← Reading.bits (distanceExtra.getD ds 0))
          pure (.copy length distance)

/-- Where decoding stopped: at the end of a block or stream (with the position after it), because
the input ran out, or at corrupt data. -/
inductive Stop where
  | done (pos : Nat)
  | short
  | corrupt (why : String)

/-- The output with `n` bytes copied from `distance` back. -/
def copyBack (distance : Nat) : Nat → Array UInt8 → Array UInt8
  | 0, out => out
  | n + 1, out => copyBack distance n (out.push (out.getD (out.size - distance) 0))

/-- The items of a block, appended to the output. -/
def items (lit dist : Huffman) (d : Array UInt8) : Nat → Nat → Array UInt8 → Array UInt8 × Stop
  | 0, _, out => (out, .short)
  | fuel + 1, pos, out =>
    match item lit dist d pos with
    | .short => (out, .short)
    | .corrupt why => (out, .corrupt why)
    | .read .finish pos => (out, .done pos)
    | .read (.literal b) pos => items lit dist d fuel pos (out.push b)
    | .read (.copy length distance) pos =>
      if distance > out.size then (out, .corrupt "invalid distance too far back")
      else items lit dist d fuel pos (copyBack distance length out)

/-- The order in which the lengths of the code-length code are given. -/
def codeLengthOrder : List Nat := [16, 17, 18, 0, 8, 7, 9, 6, 10, 5, 11, 4, 12, 3, 13, 2, 14, 1, 15]

/-- `n` numbers of `width` bits each. -/
def readMany (width : Nat) : Nat → Reading (List Nat)
  | 0 => pure []
  | n + 1 => do
    let x ← Reading.bits width
    let rest ← readMany width n
    pure (x :: rest)

/-- The code lengths of a dynamic block, read with the code-length code `h` until there are
`total` of them. -/
def readLengths (h : Huffman) (total : Nat) : Nat → Array Nat → Reading (Array Nat)
  | 0, acc => pure acc
  | fuel + 1, acc =>
    if acc.size ≥ total then pure acc
    else do
      let sym := (← h.decode).getD 0
      if sym < 16 then readLengths h total fuel (acc.push sym)
      else
        let (len, copies) ← match sym with
          | 16 => do
            let r ← Reading.bits 2
            if acc.size = 0 then Reading.fail "invalid bit length repeat"
            else pure (acc.getD (acc.size - 1) 0, 3 + r)
          | 17 => do pure (0, 3 + (← Reading.bits 3))
          | _ => do pure (0, 11 + (← Reading.bits 7))
        if acc.size + copies > total then Reading.fail "invalid bit length repeat"
        else readLengths h total fuel (acc ++ Array.replicate copies len)

/-- The codes of a dynamic block, from its header. -/
def dynamicCodes : Reading (Huffman × Huffman) := do
  let nlen := (← Reading.bits 5) + 257
  let ndist := (← Reading.bits 5) + 1
  let ncode := (← Reading.bits 4) + 4
  if nlen > 286 || ndist > 30 then Reading.fail "too many length or distance symbols"
  else
    let given ← readMany 3 ncode
    let pairs := codeLengthOrder.zip (given ++ List.replicate (19 - ncode) 0)
    let lens := (List.range 19).map fun s => ((pairs.find? (·.1 = s)).map (·.2)).getD 0
    let codeCode := Huffman.ofLengths lens.toArray
    if !codeCode.acceptable true then Reading.fail "invalid code lengths set"
    else
      let lens ← readLengths codeCode (nlen + ndist) (nlen + ndist + 1) #[]
      if lens.getD 256 0 = 0 then Reading.fail "invalid code -- missing end-of-block"
      else
        let lit := Huffman.ofLengths (lens.extract 0 nlen)
        let dist := Huffman.ofLengths (lens.extract nlen (nlen + ndist))
        if !lit.acceptable false then Reading.fail "invalid literal/lengths set"
        else if !dist.acceptable false then Reading.fail "invalid distances set"
        else pure (lit, dist)

/-- The length of a stored block, from its header. -/
def storedLength : Reading Nat := do
  Reading.align
  let len ← Reading.bits 16
  let check ← Reading.bits 16
  if len != check ^^^ 0xFFFF then Reading.fail "invalid stored block lengths" else pure len

/-- One block after its first bit, appended to the output. -/
def block (d : Array UInt8) (pos : Nat) (out : Array UInt8) : Array UInt8 × Stop :=
  match Reading.bits 2 d pos with
  | .short => (out, .short)
  | .corrupt why => (out, .corrupt why)
  | .read 0 pos =>
    match storedLength d pos with
    | .short => (out, .short)
    | .corrupt why => (out, .corrupt why)
    | .read len pos =>
      let start := pos / 8
      let chunk := d.extract start (start + len)
      if chunk.size < len then (out ++ chunk, .short) else (out ++ chunk, .done (pos + 8 * len))
  | .read 1 pos => items fixedLiterals fixedDistances d (8 * d.size + 1) pos out
  | .read 2 pos =>
    match dynamicCodes d pos with
    | .short => (out, .short)
    | .corrupt why => (out, .corrupt why)
    | .read (lit, dist) pos => items lit dist d (8 * d.size + 1) pos out
  | .read _ _ => (out, .corrupt "invalid block type")

/-- Blocks up to and including the last one, appended to the output; the stream ends on the byte
boundary after the last block. -/
def blocks (d : Array UInt8) : Nat → Nat → Array UInt8 → Array UInt8 × Stop
  | 0, _, out => (out, .short)
  | fuel + 1, pos, out =>
    match Reading.bit d pos with
    | .short => (out, .short)
    | .corrupt why => (out, .corrupt why)
    | .read last pos =>
      match block d pos out with
      | (out, .done pos) =>
        if last = 1 then (out, .done ((pos + 7) / 8 * 8)) else blocks d fuel pos out
      | other => other

/-- Deflate data from a position, then a trailer read by `check` against the output. -/
def inflateFrom (d : Array UInt8) (pos : Nat) (check : Array UInt8 → Reading Unit) :
    Array UInt8 × Stop :=
  match blocks d (8 * d.size + 1) pos #[] with
  | (out, .done pos) =>
    match check out d pos with
    | .read () pos => (out, .done pos)
    | .short => (out, .short)
    | .corrupt why => (out, .corrupt why)
  | other => other

/-- The header of a gzip member. -/
def gzipHeader : Reading Unit := do
  let id1 ← Reading.byte
  let id2 ← Reading.byte
  if !(id1 = 0x1F && id2 = 0x8B) then Reading.fail "incorrect header check"
  else
    let method ← Reading.byte
    let flags ← Reading.byte
    if method != 8 then Reading.fail "unknown compression method"
    else if flags &&& 0xE0 != 0 then Reading.fail "unknown header flags set"
    else
      Reading.skipBytes 6
      if flags &&& 4 != 0 then Reading.skipBytes (← Reading.littleEndian 2)
      if flags &&& 8 != 0 then Reading.skipText (1 <<< 32)
      if flags &&& 16 != 0 then Reading.skipText (1 <<< 32)
      if flags &&& 2 != 0 then
        let header ← Reading.consumed
        let stated ← Reading.littleEndian 2
        if stated != (crc32 header).toNat % 65536 then Reading.fail "header crc mismatch"

/-- The trailer of a gzip member: the CRC-32 and the length of the output. -/
def gzipTrailer (out : Array UInt8) : Reading Unit := do
  let crc ← Reading.littleEndian 4
  if crc != (crc32 out.toList).toNat then Reading.fail "incorrect data check"
  else
    let size ← Reading.littleEndian 4
    if size != out.size % Nat.pow 2 32 then Reading.fail "incorrect length check"

/-- The header of a zlib stream. -/
def zlibHeader : Reading Unit := do
  let cmf ← Reading.byte
  let flags ← Reading.byte
  if (cmf * 256 + flags) % 31 != 0 then Reading.fail "incorrect header check"
  else if cmf % 16 != 8 then Reading.fail "unknown compression method"
  else if cmf / 16 + 8 > 15 then Reading.fail "invalid window size"
  else if flags &&& 0x20 != 0 then do
    let _ ← Reading.littleEndian 4
    Reading.fail "need dictionary"

/-- The trailer of a zlib stream: the Adler-32 of the output, most significant byte first. -/
def zlibTrailer (out : Array UInt8) : Reading Unit := do
  let bytes ← readMany 8 4
  if bytes.foldl (fun acc b => 256 * acc + b) 0 != adler32 out.toList then
    Reading.fail "incorrect data check"

/-- The output of a whole body under a header and a trailer, or zlib's complaint. -/
def unwrap (header : Reading Unit) (trailer : Array UInt8 → Reading Unit) (d : Array UInt8) :
    Except String (Array UInt8) :=
  match header d 0 with
  | .short => .ok #[]
  | .corrupt why => .error why
  | .read () pos =>
    match inflateFrom d pos trailer with
    | (_, .corrupt why) => .error why
    | (out, _) => .ok out

/-- A gzip member undone. -/
def gunzip (d : Array UInt8) : Except String (Array UInt8) := unwrap gzipHeader gzipTrailer d

/-- A zlib stream undone. -/
def unzlib (d : Array UInt8) : Except String (Array UInt8) := unwrap zlibHeader zlibTrailer d

/-- Raw deflate data undone. -/
def inflateRaw (d : Array UInt8) : Except String (Array UInt8) :=
  unwrap (pure ()) (fun _ => pure ()) d

end StatementClient.Bytes
