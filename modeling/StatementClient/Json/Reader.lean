import StatementClient.Json.Value
import StatementClient.Decimal.Nearest
import StatementClient.Bytes.Codec

/-!
# Reading documents

`Json.readText` reads a document from text and `Json.readBytes` from bytes. Both follow one
grammar: whitespace is space, tab, newline and carriage return; the words `NaN`, `Infinity` and
`-Infinity` are floats; a number with a fraction or an exponent is a float, any other an
integer; among repeated keys of an object the last value wins at the first position. A
`Dialect` adds the rules on which readers differ: how deep containers may nest, whether a `\u`
escape may leave half a surrogate pair, how many digits a number may have, and how deep the
reader can descend before its stack runs out.

A failure names the rule that was broken and the position of the character where the reader
stopped (`ReadFailure`); `ReadFailure.message` adds the line and column.

Bytes are decoded first. The lenient reader picks the codec from a byte-order mark or from where
the zero bytes sit among the first four (`detectCodec`) and passes encoded surrogates through; the
strict one takes UTF-8 only.
-/

namespace StatementClient

namespace Json

/-- The rules a reader can find broken. -/
inductive ReadError where
  | expectingValue
  | expectingPropertyName
  | expectingColon
  | expectingComma
  | unterminatedString
  | invalidControl
  | invalidEscape
  | invalidUnicodeEscape
  | extraData
  | byteOrderMark
  | loneSurrogate
  | tooDeep
  | numberTooLong
  | integerTooLong (digits : Nat)
  | stackExhausted (array : Bool)
  deriving Inhabited

/-- A broken rule and the position (in characters) where reading stopped. -/
structure ReadFailure where
  error : ReadError
  position : Nat
  deriving Inhabited

/-- The rules on which readers differ. -/
structure Dialect where
  /-- The most containers a value may sit in, counting its own. -/
  maxDepth : Option Nat
  /-- Whether a `\u` escape may stand for half a surrogate pair. -/
  loneSurrogates : Bool
  /-- The most digits an integer may have; more is a value out of range. -/
  maxIntegerDigits : Option Nat
  /-- The most digits before the point of any number; more makes the document malformed. -/
  maxWholeDigits : Option Nat
  /-- The most containers the reader can enter before its stack runs out. -/
  stackDepth : Option Nat

/-- The reader of message bodies: lone surrogates kept, integers up to 4300 digits, and a stack
that runs out inside 970 containers. -/
def Dialect.lenient : Dialect :=
  { maxDepth := none, loneSurrogates := true, maxIntegerDigits := some 4300,
    maxWholeDigits := none, stackDepth := some 970 }

/-- The reader of validated bodies: at most 201 nested containers, no lone surrogate, and at
most 4300 digits before the point of a number. -/
def Dialect.strict : Dialect :=
  { maxDepth := some 201, loneSurrogates := false, maxIntegerDigits := none,
    maxWholeDigits := some 4300, stackDepth := none }

/-- Whether the reader skips a character between tokens. -/
def isBlank (c : Char) : Bool :=
  c = ' ' || c = '\t' || c = '\n' || c = '\r'

/-- Skips blanks, counting positions. -/
def skipBlanks : List Char → Nat → List Char × Nat
  | [], pos => ([], pos)
  | c :: rest, pos => if isBlank c then skipBlanks rest (pos + 1) else (c :: rest, pos)

/-- The value of a hex digit. -/
def hexValue (c : Char) : Option Nat :=
  if '0' ≤ c ∧ c ≤ '9' then some (c.toNat - '0'.toNat)
  else if 'a' ≤ c ∧ c ≤ 'f' then some (c.toNat - 'a'.toNat + 10)
  else if 'A' ≤ c ∧ c ≤ 'F' then some (c.toNat - 'A'.toNat + 10)
  else none

/-- The value of four hex digits. -/
def hex4 (cs : List Char) : Option Nat :=
  match cs with
  | [a, b, c, d] => do
    let a ← hexValue a
    let b ← hexValue b
    let c ← hexValue c
    let d ← hexValue d
    pure (((a * 16 + b) * 16 + c) * 16 + d)
  | _ => none

/-- Whether a code point is a high (leading) surrogate. -/
def isHighSurrogate (n : Nat) : Bool := 0xD800 ≤ n && n < 0xDC00

/-- Whether a code point is a low (trailing) surrogate. -/
def isLowSurrogate (n : Nat) : Bool := 0xDC00 ≤ n && n < 0xE000

/-- A `\u` escape whose backslash is at `pos`; `rest` follows the `u`. It needs four hex digits
and one more character after them. A high surrogate takes a following `\u` escape of a low
surrogate as its partner when a character follows that one too. Answers the code point (or the
two joined), the rest and its position. -/
def readUnicodeEscape (d : Dialect) (pos : Nat) (rest : List Char) :
    Except ReadFailure (Char × List Char × Nat) :=
  if rest.length ≤ 4 then .error ⟨.invalidUnicodeEscape, pos + 1⟩
  else
    match hex4 (rest.take 4) with
    | none => .error ⟨.invalidUnicodeEscape, pos + 1⟩
    | some c =>
      let after := rest.drop 4
      let single : Except ReadFailure (Char × List Char × Nat) :=
        if (isHighSurrogate c || isLowSurrogate c) then
          if d.loneSurrogates then .ok (Text.ofCodeUnit c, after, pos + 6)
          else .error ⟨.loneSurrogate, pos⟩
        else .ok (Char.ofNat c, after, pos + 6)
      if isHighSurrogate c && after.length > 6 && after.take 2 = ['\\', 'u'] then
        match hex4 ((after.drop 2).take 4) with
        | none => .error ⟨.invalidUnicodeEscape, pos + 7⟩
        | some c' =>
          if isLowSurrogate c' then
            .ok (Char.ofNat (0x10000 + (c - 0xD800) * 0x400 + (c' - 0xDC00)), after.drop 6, pos + 12)
          else single
      else single

/-- The character a one-letter escape stands for. -/
def simpleEscape (c : Char) : Option Char :=
  if c = '"' then some '"'
  else if c = '\\' then some '\\'
  else if c = '/' then some '/'
  else if c = 'b' then some (Char.ofNat 8)
  else if c = 'f' then some (Char.ofNat 12)
  else if c = 'n' then some '\n'
  else if c = 'r' then some '\r'
  else if c = 't' then some '\t'
  else none

/-- The body of a string whose opening quote is at `start`, from position `pos`. A control
character must be escaped; a string that the text ends in is unterminated. Each step consumes a
character, so `fuel` above the length of `cs` is enough. -/
def readStringBody (d : Dialect) (start : Nat) (fuel : Nat) (acc : Array Char) (cs : List Char)
    (pos : Nat) : Except ReadFailure (String × List Char × Nat) :=
  match fuel, cs with
  | 0, _ => .error ⟨.unterminatedString, start⟩
  | _, [] => .error ⟨.unterminatedString, start⟩
  | fuel + 1, c :: rest =>
    if c = '"' then .ok (String.ofList acc.toList, rest, pos + 1)
    else if c = '\\' then
      match rest with
      | [] => .error ⟨.unterminatedString, start⟩
      | e :: rest' =>
        if e = 'u' then
          match readUnicodeEscape d pos rest' with
          | .error f => .error f
          | .ok (ch, rest'', pos') => readStringBody d start fuel (acc.push ch) rest'' pos'
        else
          match simpleEscape e with
          | some ch => readStringBody d start fuel (acc.push ch) rest' (pos + 2)
          | none => .error ⟨.invalidEscape, pos⟩
    else if c.toNat ≤ 0x1f then .error ⟨.invalidControl, pos⟩
    else readStringBody d start fuel (acc.push c) rest (pos + 1)

/-- A string whose opening quote is at `start` and is already consumed. -/
def readString (d : Dialect) (start : Nat) (cs : List Char) :
    Except ReadFailure (String × List Char × Nat) :=
  readStringBody d start (cs.length + 1) #[] cs (start + 1)

/-- Whether a character is a decimal digit. -/
def isDigit (c : Char) : Bool := '0' ≤ c && c ≤ '9'

/-- The value of a run of decimal digits. -/
def digitsValue (ds : List Char) : Nat :=
  ds.foldl (fun n c => 10 * n + (c.toNat - '0'.toNat)) 0

/-- The exponent part of a number token. -/
structure ExponentToken where
  negative : Bool
  signWritten : Bool
  digits : List Char

/-- The pieces of a number token: sign, integer digits, fraction digits, exponent. -/
structure NumberToken where
  negative : Bool
  whole : List Char
  fraction : Option (List Char)
  exponent : Option ExponentToken

/-- The length of a number token in characters. -/
def NumberToken.length (t : NumberToken) : Nat :=
  (if t.negative then 1 else 0) + t.whole.length +
    (match t.fraction with | some f => 1 + f.length | none => 0) +
    (match t.exponent with
     | some e => 1 + (if e.signWritten then 1 else 0) + e.digits.length
     | none => 0)

/-- The exponent after an `e` or `E`: an optional sign and at least one digit. -/
def scanExponent (cs : List Char) : Option ExponentToken :=
  let (negative, signWritten, digits) := match cs with
    | '-' :: ds => (true, true, ds)
    | '+' :: ds => (false, true, ds)
    | ds => (false, false, ds)
  let run := digits.takeWhile isDigit
  if run.isEmpty then none else some { negative, signWritten, digits := run }

/-- Scans a number: an optional minus, then `0` or a digit run not starting with `0`. A point
counts only before a digit, an exponent only with a digit after its optional sign; otherwise
the token ends before them. -/
def scanNumber (cs : List Char) : Option NumberToken :=
  let (negative, cs) := match cs with
    | '-' :: rest => (true, rest)
    | _ => (false, cs)
  let whole : Option (List Char × List Char) := match cs with
    | '0' :: rest => some (['0'], rest)
    | c :: _ => if isDigit c then some (cs.takeWhile isDigit, cs.dropWhile isDigit) else none
    | [] => none
  match whole with
  | none => none
  | some (whole, rest) =>
    let (fraction, rest) := match rest with
      | '.' :: c :: more =>
        if isDigit c then (some (c :: more.takeWhile isDigit), more.dropWhile isDigit)
        else (none, rest)
      | _ => (none, rest)
    let exponent := match rest with
      | e :: more => if e = 'e' || e = 'E' then scanExponent more else none
      | [] => none
    some { negative, whole, fraction, exponent }

/-- The value of a number token: an integer when it has neither fraction nor exponent, else
the nearest float. The dialect may bound the digits before the point of any number, and the
digits of an integer. -/
def NumberToken.value (d : Dialect) (t : NumberToken) (pos : Nat) : Except ReadFailure Json :=
  if d.maxWholeDigits.any (fun m => m < t.whole.length) then .error ⟨.numberTooLong, pos⟩
  else
    match t.fraction, t.exponent with
    | none, none =>
      let n := digitsValue t.whole
      let v : Int := if t.negative then -(n : Int) else n
      match d.maxIntegerDigits with
      | some limit =>
        if t.whole.length > limit then .error ⟨.integerTooLong t.whole.length, pos⟩
        else .ok (.int v)
      | none => .ok (.int v)
    | fraction, exponent =>
      let frac := fraction.getD []
      let mantissa := digitsValue (t.whole ++ frac)
      let exp : Int := match exponent with
        | some e => if e.negative then -(digitsValue e.digits : Int) else digitsValue e.digits
        | none => 0
      .ok (.float (Decimal.nearest t.negative mantissa (exp - frac.length)))

/-- The float of a word: `NaN`, `Infinity` or `-Infinity`. -/
def wordValue (cs : List Char) : Option (Float × Nat) :=
  if cs.take 3 = ['N', 'a', 'N'] then some (0.0 / 0.0, 3)
  else if cs.take 8 = "Infinity".toList then some (Decimal.infinity false, 8)
  else if cs.take 9 = "-Infinity".toList then some (Decimal.infinity true, 9)
  else none

mutual

/-- A value at position `pos`, inside `depth` containers. -/
def readValue (d : Dialect) (fuel depth : Nat) (cs : List Char) (pos : Nat) :
    Except ReadFailure (Json × List Char × Nat) :=
  match fuel with
  | 0 => .error ⟨.expectingValue, pos⟩
  | fuel + 1 =>
    match cs with
    | [] => .error ⟨.expectingValue, pos⟩
    | c :: rest =>
      if c = '"' then
        match readString d pos rest with
        | .ok (s, rest', pos') => .ok (.str s, rest', pos')
        | .error f => .error f
      else if c = '{' || c = '[' then
        if d.maxDepth.any (fun m => m ≤ depth) then .error ⟨.tooDeep, pos⟩
        else if d.stackDepth.any (fun m => m ≤ depth) then .error ⟨.stackExhausted (c = '['), pos⟩
        else
          let (rest', pos') := skipBlanks rest (pos + 1)
          if c = '[' then
            match rest' with
            | ']' :: more => .ok (.arr [], more, pos' + 1)
            | _ =>
              match readItems d fuel (depth + 1) #[] rest' pos' with
              | .ok (items, more, pos'') => .ok (.arr items.toList, more, pos'')
              | .error f => .error f
          else
            match rest' with
            | '}' :: more => .ok (.obj [], more, pos' + 1)
            | _ =>
              match readMembers d fuel (depth + 1) [] rest' pos' with
              | .ok (fields, more, pos'') => .ok (.obj fields, more, pos'')
              | .error f => .error f
      else if cs.take 4 = ['n', 'u', 'l', 'l'] then .ok (.null, cs.drop 4, pos + 4)
      else if cs.take 4 = ['t', 'r', 'u', 'e'] then .ok (.bool true, cs.drop 4, pos + 4)
      else if cs.take 5 = ['f', 'a', 'l', 's', 'e'] then .ok (.bool false, cs.drop 5, pos + 5)
      else
        match wordValue cs with
        | some (x, len) => .ok (.float x, cs.drop len, pos + len)
        | none =>
          match scanNumber cs with
          | none => .error ⟨.expectingValue, pos⟩
          | some t =>
            match t.value d pos with
            | .ok v => .ok (v, cs.drop t.length, pos + t.length)
            | .error f => .error f

/-- The items of an array after its opening bracket and blanks, up to its closing bracket. -/
def readItems (d : Dialect) (fuel depth : Nat) (acc : Array Json) (cs : List Char) (pos : Nat) :
    Except ReadFailure (Array Json × List Char × Nat) :=
  match fuel with
  | 0 => .error ⟨.expectingValue, pos⟩
  | fuel + 1 =>
    match readValue d fuel depth cs pos with
    | .error f => .error f
    | .ok (v, rest, pos') =>
      let (rest, pos') := skipBlanks rest pos'
      match rest with
      | ']' :: more => .ok (acc.push v, more, pos' + 1)
      | ',' :: more =>
        let (more, pos'') := skipBlanks more (pos' + 1)
        readItems d fuel depth (acc.push v) more pos''
      | _ => .error ⟨.expectingComma, pos'⟩

/-- The members of an object after its opening brace and blanks, up to its closing brace. -/
def readMembers (d : Dialect) (fuel depth : Nat) (acc : List (String × Json)) (cs : List Char)
    (pos : Nat) : Except ReadFailure (List (String × Json) × List Char × Nat) :=
  match fuel with
  | 0 => .error ⟨.expectingValue, pos⟩
  | fuel + 1 =>
    match cs with
    | '"' :: rest =>
      match readString d pos rest with
      | .error f => .error f
      | .ok (key, rest, pos') =>
        let (rest, pos') := skipBlanks rest pos'
        match rest with
        | ':' :: more =>
          let (more, pos'') := skipBlanks more (pos' + 1)
          match readValue d fuel depth more pos'' with
          | .error f => .error f
          | .ok (v, rest, pos₃) =>
            let acc := setField acc key v
            let (rest, pos₃) := skipBlanks rest pos₃
            match rest with
            | '}' :: more => .ok (acc, more, pos₃ + 1)
            | ',' :: more =>
              let (more, pos₄) := skipBlanks more (pos₃ + 1)
              readMembers d fuel depth acc more pos₄
            | _ => .error ⟨.expectingComma, pos₃⟩
        | _ => .error ⟨.expectingColon, pos'⟩
    | _ => .error ⟨.expectingPropertyName, pos⟩

end

/-- Reads a whole document from characters: blanks around one value and nothing else. -/
def readChars (d : Dialect) (cs : List Char) : Except ReadFailure Json :=
  let (rest, pos) := skipBlanks cs 0
  match readValue d (2 * cs.length + 2) 0 rest pos with
  | .error f => .error f
  | .ok (v, rest, pos') =>
    let (rest, pos'') := skipBlanks rest pos'
    if rest.isEmpty then .ok v else .error ⟨.extraData, pos''⟩

/-- Reads a whole document from text; text must not start with a byte-order mark. -/
def readText (d : Dialect) (text : String) : Except ReadFailure Json :=
  match text.toList with
  | '\uFEFF' :: _ => .error ⟨.byteOrderMark, 0⟩
  | cs => readChars d cs

/-- The words for a broken rule. -/
def ReadError.text : ReadError → String
  | .expectingValue => "Expecting value"
  | .expectingPropertyName => "Expecting property name enclosed in double quotes"
  | .expectingColon => "Expecting ':' delimiter"
  | .expectingComma => "Expecting ',' delimiter"
  | .unterminatedString => "Unterminated string starting at"
  | .invalidControl => "Invalid control character at"
  | .invalidEscape => "Invalid \\escape"
  | .invalidUnicodeEscape => "Invalid \\uXXXX escape"
  | .extraData => "Extra data"
  | .byteOrderMark => "Unexpected UTF-8 BOM (decode using utf-8-sig)"
  | .loneSurrogate => "Lone surrogate"
  | .tooDeep => "Too deeply nested"
  | .numberTooLong => "Number out of range"
  | .stackExhausted array =>
    "maximum recursion depth exceeded while decoding a JSON " ++
      (if array then "array" else "object") ++ " from a unicode string"
  | .integerTooLong n =>
    s!"Exceeds the limit (4300 digits) for integer string conversion: value has {n} digits; " ++
      "use sys.set_int_max_str_digits() to increase the limit"

/-- Whether a failure is a malformed document rather than a value out of range. -/
def ReadError.isMalformed : ReadError → Bool
  | .integerTooLong _ => false
  | .stackExhausted _ => false
  | _ => true

/-- The message of a failure in text `cs`: the rule, then line, column and position, the
column counted from the last newline before the position. -/
def ReadFailure.message (cs : List Char) (f : ReadFailure) : String :=
  if f.error.isMalformed then
    let before := cs.take f.position
    let line := before.count '\n' + 1
    let column := match (before.reverse.findIdx? (· = '\n')) with
      | some i => i + 1
      | none => f.position + 1
    let rule := f.error.text
    let position := f.position
    s!"{rule}: line {line} column {column} (char {position})"
  else f.error.text

end Json

end StatementClient

namespace StatementClient

namespace Json

/-- The codec a lenient reader picks for bytes: a byte-order mark decides; otherwise, among at
least four bytes, zeros in the first two mark the 16- or 32-bit forms and their byte order, and
of exactly two bytes a zero marks UTF-16 in the order it shows. All else is UTF-8. -/
def detectCodec (b : List UInt8) : Bytes.Codec :=
  if b.take 4 = Bytes.bomUtf32be ∨ b.take 4 = Bytes.bomUtf32le then .utf32
  else if b.take 2 = Bytes.bomUtf16be ∨ b.take 2 = Bytes.bomUtf16le then .utf16
  else if b.take 3 = Bytes.bomUtf8 then .utf8Sig
  else
    match b with
    | [x0, x1] => if x0 = 0 then .utf16be else if x1 = 0 then .utf16le else .utf8
    | x0 :: x1 :: x2 :: x3 :: _ =>
      if x0 = 0 then (if x1 ≠ 0 then .utf16be else .utf32be)
      else if x1 = 0 then (if x2 ≠ 0 ∨ x3 ≠ 0 then .utf16le else .utf32le)
      else .utf8
    | _ => .utf8

/-- Why bytes are no document: they do not decode, or their text does not read. -/
inductive BytesFailure where
  | undecodable (u : Bytes.Undecodable)
  | unreadable (text : List Char) (f : ReadFailure)
  deriving Inhabited

/-- The class name of a failure to read bytes. -/
def BytesFailure.className : BytesFailure → String
  | .undecodable _ => "UnicodeDecodeError"
  | .unreadable _ f =>
    match f.error with
    | .stackExhausted _ => "RecursionError"
    | e => if e.isMalformed then "JSONDecodeError" else "ValueError"

/-- Whether a failure to read bytes is a complaint about the value: all are but the reader
running out of stack. -/
def BytesFailure.isValueError : BytesFailure → Bool
  | .unreadable _ ⟨.stackExhausted _, _⟩ => false
  | _ => true

/-- The message of a failure to read bytes. -/
def BytesFailure.message : BytesFailure → String
  | .undecodable u => u.message
  | .unreadable text f => f.message text

/-- Reads a message body leniently: decode with the detected codec, passing encoded surrogates
through, then read the text. -/
def readBytes (b : List UInt8) : Except BytesFailure Json :=
  match (detectCodec b).decode true b with
  | .error u => .error (.undecodable u)
  | .ok text =>
    let cs := text.toList
    match readChars .lenient cs with
    | .ok v => .ok v
    | .error f => .error (.unreadable cs f)

/-- Reads a body strictly: UTF-8 without a byte-order mark, and the strict dialect. -/
def readBytesStrict (b : List UInt8) : Option Json :=
  match Bytes.Codec.utf8.decode false b with
  | .error _ => none
  | .ok text =>
    match readChars .strict text.toList with
    | .ok v => some v
    | .error _ => none

end Json

end StatementClient
