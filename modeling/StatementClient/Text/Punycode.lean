/-!
# Punycode

The bootstring encoding of a label (RFC 3492 parameters: base 36, thresholds 1 and 26, skew 38,
damping 700, initial bias 72, initial code point 128).

* `encode` writes the ASCII characters of the text first, then a hyphen if there were any, then
  every other code point as a delta from the last, in increasing order of code point.
* `decode` reads the characters before the last hyphen as they are, and the digits after it as
  insertions; digits are read in either case. A digit that is not one, a number cut short, or a
  code point beyond `U+10FFFF` or in the surrogate range is refused.

Every loop has a measure: the bias adaptation divides its delta by 35, a number's digits divide
it by at least 10, and the insertions consume the input.
-/

namespace StatementClient.Text.Punycode

/-- The character of a digit: `a` to `z`, then `0` to `9`. -/
def digitChar (d : Nat) : Char :=
  if d < 26 then Char.ofNat (0x61 + d) else Char.ofNat (0x30 + d - 26)

/-- The value of a digit character, in either case. -/
def digitValue (c : Char) : Option Nat :=
  let n := c.toNat
  if 0x61 ≤ n ∧ n ≤ 0x7A then some (n - 0x61)
  else if 0x41 ≤ n ∧ n ≤ 0x5A then some (n - 0x41)
  else if 0x30 ≤ n ∧ n ≤ 0x39 then some (n - 0x30 + 26)
  else none

/-- The threshold of the digit at position `k` (a multiple of 36) under `bias`. -/
def threshold (k bias : Nat) : Nat :=
  if k ≤ bias then 1 else if bias + 26 ≤ k then 26 else k - bias

theorem threshold_pos (k bias : Nat) : 1 ≤ threshold k bias := by
  unfold threshold
  split
  · omega
  · split <;> omega

theorem threshold_le (k bias : Nat) : threshold k bias ≤ 26 := by
  unfold threshold
  split
  · omega
  · split <;> omega

/-- The division step of bias adaptation: divide by 35 until the delta is at most 455. -/
def shrink (delta k : Nat) : Nat × Nat :=
  if 455 < delta then shrink (delta / 35) (k + 36) else (delta, k)
termination_by delta
decreasing_by exact Nat.div_lt_self (by omega) (by omega)

/-- The bias after a delta, with `count` code points written so far. -/
def adapt (delta count : Nat) (first : Bool) : Nat :=
  let d := if first then delta / 700 else delta / 2
  let (d, k) := shrink (d + d / count) 0
  k + 36 * d / (d + 38)

/-- The digits of a number under a bias, least significant first. -/
def encodeNumber (bias k q : Nat) : List Char :=
  let t := threshold k bias
  if q < t then [digitChar q]
  else digitChar (t + (q - t) % (36 - t)) :: encodeNumber bias (k + 36) ((q - t) / (36 - t))
termination_by q
decreasing_by
  have h1 := threshold_pos k bias
  have h2 := threshold_le k bias
  calc (q - threshold k bias) / (36 - threshold k bias)
      ≤ q - threshold k bias := Nat.div_le_self _ _
    _ < q := by omega

/-- The state of encoding: digits written, the pending delta, the bias, and how many code
points are written. -/
structure Encoder where
  out : List Char
  delta : Nat
  bias : Nat
  written : Nat

/-- One character of the text seen while code point `m` is being written. -/
def Encoder.visit (basic m : Nat) (e : Encoder) (c : Char) : Encoder :=
  if c.toNat < m then { e with delta := e.delta + 1 }
  else if c.toNat = m then
    { out := e.out ++ encodeNumber e.bias 36 e.delta, delta := 0,
      bias := adapt e.delta (e.written + 1) (e.written == basic), written := e.written + 1 }
  else e

/-- The code points beyond ASCII written in increasing order, from code point `n`. -/
def encodeFrom (text : List Char) (basic : Nat) : List Nat → Nat → Encoder → Encoder
  | [], _, e => e
  | m :: rest, n, e =>
    let e := { e with delta := e.delta + (m - n) * (e.written + 1) }
    let e := text.foldl (Encoder.visit basic m) e
    encodeFrom text basic rest (m + 1) { e with delta := e.delta + 1 }

/-- The distinct code points beyond ASCII of a text, in increasing order. -/
def extendedPoints (text : List Char) : List Nat :=
  ((text.filter (·.toNat ≥ 0x80)).map Char.toNat).eraseDups.mergeSort

/-- The encoding of a text. -/
def encode (text : List Char) : List Char :=
  let basic := text.filter (·.toNat < 0x80)
  let e := encodeFrom text basic.length (extendedPoints text) 128
    { out := [], delta := 0, bias := 72, written := basic.length }
  if basic.isEmpty then e.out else basic ++ ['-'] ++ e.out

/-- One number read from digits under a bias: its value added to `acc` with weight `w`, and
the digits left. -/
def decodeNumber (bias : Nat) : List Char → Nat → Nat → Nat → Option (Nat × List Char)
  | [], _, _, _ => none
  | c :: rest, k, w, acc =>
    match digitValue c with
    | none => none
    | some d =>
      if d < threshold k bias then some (acc + d * w, rest)
      else decodeNumber bias rest (k + 36) (w * (36 - threshold k bias)) (acc + d * w)

theorem decodeNumber_shorter : ∀ (bias : Nat) (l : List Char) (k w acc : Nat)
    (r : Nat × List Char), decodeNumber bias l k w acc = some r → r.2.length < l.length
  | _, [], _, _, _, _, h => by simp [decodeNumber] at h
  | bias, c :: rest, k, w, acc, r, h => by
    rw [decodeNumber] at h
    split at h
    · simp at h
    · split at h
      · rw [← Option.some.inj h]; simp
      · have := decodeNumber_shorter bias rest (k + 36) _ _ r h
        simp; omega

/-- The insertions read from digits into `out`, from code point `n` at position `pos`. -/
def insertAll (digits : List Char) (out : List Char) (n pos bias : Nat) (first : Bool) :
    Option (List Char) :=
  if digits.isEmpty then some out
  else
    match h : decodeNumber bias digits 36 1 pos with
    | none => none
    | some (j, rest) =>
      let count := out.length + 1
      let point := n + j / count
      let at_ := j % count
      if point > 0x10FFFF ∨ (0xD800 ≤ point ∧ point < 0xE000) then none
      else
        have : rest.length < digits.length := decodeNumber_shorter bias digits 36 1 pos _ h
        insertAll rest (out.take at_ ++ [Char.ofNat point] ++ out.drop at_) point (at_ + 1)
          (adapt (j - pos) count first) false
termination_by digits.length

/-- The text of an encoding, or none when it is malformed. -/
def decode (s : List Char) : Option (List Char) :=
  let k := s.reverse.findIdx? (· = '-')
  let (basic, digits) := match k with
    | some k => (s.take (s.length - 1 - k), s.drop (s.length - k))
    | none => ([], s)
  if basic.any (·.toNat ≥ 0x80) then none
  else insertAll digits basic 128 0 72 true

/-- Why digits do not decode, in the words of the text codec. -/
inductive Fault where
  /-- The digits end inside a number. -/
  | incomplete
  /-- A character that is no digit, as written in upper case. -/
  | invalidDigit (c : Char)
  /-- A code point beyond `U+10FFFF`. -/
  | beyondUnicode (n : Nat)
  deriving Inhabited

/-- Lowercase hex digits of a number. -/
def lowerHex (n : Nat) : String :=
  String.ofList (Nat.toDigits 16 n)

/-- The message of a decoding fault. -/
def Fault.message : Fault → String
  | .incomplete => "incomplete punicode string"
  | .invalidDigit c => "Invalid extended code point \x27" ++ c.toString ++ "\x27"
  | .beyondUnicode n => "Invalid character U+" ++ lowerHex n

/-- A number as the text codec reads it: a character that is no digit, or digits that run out,
are reported. -/
def readNumber (bias : Nat) : List Char → Nat → Nat → Nat → Except Fault (Nat × List Char)
  | [], _, _, _ => .error .incomplete
  | c :: rest, k, w, acc =>
    match digitValue c with
    | none => .error (.invalidDigit c.toUpper)
    | some d =>
      if d < threshold k bias then .ok (acc + d * w, rest)
      else readNumber bias rest (k + 36) (w * (36 - threshold k bias)) (acc + d * w)

theorem readNumber_shorter : ∀ (bias : Nat) (l : List Char) (k w acc : Nat)
    (r : Nat × List Char), readNumber bias l k w acc = .ok r → r.2.length < l.length
  | _, [], _, _, _, _, h => by simp [readNumber] at h
  | bias, c :: rest, k, w, acc, r, h => by
    rw [readNumber] at h
    split at h
    · simp at h
    · split at h
      · cases h; simp
      · have := readNumber_shorter bias rest (k + 36) _ _ r h
        simp; omega

/-- The insertions of the text codec: like `insertAll`, but every code point up to `U+10FFFF`
is inserted, `ofPoint` making its character, and a fault is reported. -/
def insertReporting (ofPoint : Nat → Char) (digits : List Char) (out : List Char)
    (n pos bias : Nat) (first : Bool) : Except Fault (List Char) :=
  if digits.isEmpty then .ok out
  else
    match h : readNumber bias digits 36 1 pos with
    | .error f => .error f
    | .ok (j, rest) =>
      let count := out.length + 1
      let point := n + j / count
      let at_ := j % count
      if point > 0x10FFFF then .error (.beyondUnicode point)
      else
        have : rest.length < digits.length := readNumber_shorter bias digits 36 1 pos _ h
        insertReporting ofPoint rest (out.take at_ ++ [ofPoint point] ++ out.drop at_) point
          (at_ + 1) (adapt (j - pos) count first) false
termination_by digits.length

example : String.ofList (encode "bücher".toList) = "bcher-kva" := by cbv
example : (decode "bcher-kva".toList).map String.ofList = some "bücher" := by cbv

end StatementClient.Text.Punycode
