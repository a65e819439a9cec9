import StatementClient.Text.Blank
import StatementClient.Bytes.Registry

/-!
# Parameters of a media type

The `charset` of a `Content-Type` value, read the way mail headers read parameters.

* The value is cut at semicolons that stand outside double quotes (`splitParams`); in each
  piece the name before the first `=` is trimmed and put in lower case, the value trimmed.
* The first piece, the type itself, is kept as it is. Every later value loses its surrounding
  quotes. A name of letters, digits and underscores followed by `*`, a section number, or both
  (`name*2*`) is one section of a long value: the sections of a name are put in order of number
  and joined, those marked with a final `*` first percent-decoded byte by byte. Such a value, if
  any section was marked, may start with a charset and a language, each ending in `'`.
* `charset` is the value of the first parameter so named, its quotes removed. A marked value is
  decoded from its bytes with its charset (ASCII when none is given), or kept as it is when that
  fails. A value beyond ASCII counts as no charset; any other is put in lower case.
-/

namespace StatementClient

/-- Quotes around a value removed, with `\\` and `\"` inside read as one character; angle
brackets are removed too. -/
def unquoteValue (s : String) : String :=
  let cs := s.toList
  if cs.length > 1 && cs.head? = some '"' && cs.getLast? = some '"' then
    let inner := (cs.drop 1).dropLast
    let rec unescapeQuotes : List Char → List Char
      | '\\' :: '"' :: rest => '"' :: unescapeQuotes rest
      | c :: rest => c :: unescapeQuotes rest
      | [] => []
    let rec unescapeSlashes : List Char → List Char
      | '\\' :: '\\' :: rest => '\\' :: unescapeSlashes rest
      | c :: rest => c :: unescapeSlashes rest
      | [] => []
    String.ofList (unescapeQuotes (unescapeSlashes inner))
  else if cs.length > 1 && cs.head? = some '<' && cs.getLast? = some '>' then
    String.ofList ((cs.drop 1).dropLast)
  else s

/-- A value in quotes, with backslashes and quotes inside escaped. -/
def quoteValue (s : String) : String :=
  "\"" ++ String.join (s.toList.map fun c =>
    if c = '\\' then "\\\\" else if c = '"' then "\\\"" else c.toString) ++ "\""

/-- How many double quotes, not counting escaped ones, stand in a text. -/
def openQuotes (cs : List Char) : Nat :=
  let total := cs.count '"'
  let rec escaped : List Char → Nat
    | '\\' :: '"' :: rest => 1 + escaped rest
    | _ :: rest => escaped rest
    | [] => 0
  total - escaped cs

/-- The place of the semicolon that ends the current piece: the first one before which the
quotes are balanced, or none. -/
def pieceEnd (cs : List Char) : Option Nat :=
  let spots := (List.range cs.length).filter fun i => cs.getD i ' ' = ';'
  spots.find? fun i => i = 0 || openQuotes (cs.take i) % 2 = 0

/-- A piece with its name trimmed and in lower case and its value trimmed. -/
def tidyPiece (cs : List Char) : String :=
  match cs.findIdx? (· = '=') with
  | some i =>
    let name := Text.trim (String.ofList (cs.take i))
    (String.ofList (name.toList.map Char.toLower) ++ "=" ++
      Text.trim (String.ofList (cs.drop (i + 1))))
  | none => Text.trim (String.ofList cs)

/-- The pieces of a header value, cut at the semicolons outside quotes. -/
def splitParams (value : String) : List String :=
  let rec go (fuel : Nat) (cs : List Char) : List String :=
    match fuel with
    | 0 => []
    | fuel + 1 =>
      match pieceEnd cs with
      | some k => tidyPiece (cs.take k) :: go fuel (cs.drop (k + 1))
      | none => [tidyPiece cs]
  go (value.length + 1) value.toList

/-- A parameter value: plain text, or marked text with its charset and language. -/
inductive ParamValue where
  | plain (text : String)
  | marked (charset language : Option String) (text : String)
  deriving Inhabited

/-- A piece as a name and a value. -/
def pieceParam (p : String) : String × String :=
  match p.splitOn "=" with
  | [name] => (Text.trim name, "")
  | name :: rest => (Text.trim name, Text.trim ("=".intercalate rest))
  | [] => ("", "")

/-- A name that is a section of a long value: the base name, the section number if written,
and whether the section is marked. -/
def sectionOf (name : String) : Option (String × Option Nat × Bool) :=
  let cs := name.toList
  let isWord (c : Char) := c.toNat < 0x80 && (c.isAlphanum || c = '_')
  let base := cs.takeWhile isWord
  let rest := cs.drop base.length
  if base.isEmpty then none
  else
    match rest with
    | ['*'] => some (String.ofList base, none, true)
    | '*' :: more =>
      let digits := more.takeWhile Char.isDigit
      let tail := more.drop digits.length
      if digits.isEmpty then none
      else if tail = [] then some (String.ofList base, some ((String.ofList digits).toNat?.getD 0), false)
      else if tail = ['*'] then some (String.ofList base, some ((String.ofList digits).toNat?.getD 0), true)
      else none
    | _ => none

/-- Percent escapes read as single characters of the same code. -/
def percentDecodeLatin (cs : List Char) : List Char :=
  let hex (c : Char) : Option Nat :=
    if c.isDigit then some (c.toNat - '0'.toNat)
    else if 'a' ≤ c ∧ c ≤ 'f' then some (c.toNat - 'a'.toNat + 10)
    else if 'A' ≤ c ∧ c ≤ 'F' then some (c.toNat - 'A'.toNat + 10)
    else none
  let rec go : List Char → List Char
    | '%' :: a :: b :: rest =>
      match hex a, hex b with
      | some x, some y => Char.ofNat (16 * x + y) :: go rest
      | _, _ => '%' :: go (a :: b :: rest)
    | c :: rest => c :: go rest
    | [] => []
  go cs

/-- The order of sections: by number, then by text, then unmarked before marked. -/
def sectionLe (a b : Nat × String × Bool) : Bool :=
  let (n1, v1, m1) := a
  let (n2, v2, m2) := b
  n1 < n2 || (n1 = n2 && (decide (v1 < v2) || (v1 = v2 && (!m1 || m2))))

/-- The parameters of a header value: the first piece as it is, then the plain ones in order,
then the long values joined from their sections. -/
def headerParams (value : String) : List (String × ParamValue) :=
  match (splitParams value).map pieceParam with
  | [] => []
  | (firstName, firstValue) :: rest =>
    let plain := rest.filterMap fun (n, v) =>
      match sectionOf n with
      | some _ => none
      | none => some (n, ParamValue.plain (quoteValue (unquoteValue v)))
    let sections := rest.filterMap fun (n, v) =>
      (sectionOf n).map fun (base, num, marked) => (base, num, unquoteValue v, marked)
    let names := (sections.map fun (b, _, _, _) => b).eraseDups
    let long := names.map fun base =>
      let parts := (sections.filter fun (b, _, _, _) => b = base).mergeSort
        fun (_, n1, v1, m1) (_, n2, v2, m2) => sectionLe (n1.getD 0, v1, m1) (n2.getD 0, v2, m2)
      let anyMarked := parts.any fun (_, _, _, m) => m
      let joined := String.join (parts.map fun (_, _, v, m) =>
        if m then String.ofList (percentDecodeLatin v.toList) else v)
      let quoted := quoteValue joined
      if anyMarked then
        match (unquoteValue quoted).splitOn "\x27" with
        | cs :: lang :: more@(_ :: _) =>
          (base, ParamValue.marked (some cs) (some lang) (quoteValue ("\x27".intercalate more)))
        | _ => (base, ParamValue.marked none none quoted)
      else (base, ParamValue.plain quoted)
    (firstName, ParamValue.plain firstValue) :: plain ++ long

/-- The charset a `Content-Type` value names, in lower case; none when it names none or one
beyond ASCII. -/
def contentCharset (value : String) : Option String :=
  let found := (headerParams value).find? fun (n, _) =>
    String.ofList (n.toList.map Char.toLower) = "charset"
  found.bind fun (_, v) =>
    let text := match v with
      | .plain t => unquoteValue t
      | .marked cs _ t =>
        let raw := unquoteValue t
        let bytes := raw.toList.map fun (c : Char) => UInt8.ofNat c.toNat
        if raw.toList.any fun (c : Char) => c.toNat > 0xFF then raw
        else
          let name := match cs with
            | some "" | none => "us-ascii"
            | some n => n
          match Bytes.decodeNamed name bytes with
          | .ok t => t
          | .error (.unknown _) => raw
          | .error (.notText _) => raw
          -- bytes that do not decode are replaced, which leaves no ASCII name
          | .error _ => "\uFFFD"
    if text.toList.all (·.toNat < 0x80) then
      some (String.ofList (text.toList.map Char.toLower))
    else none

end StatementClient
