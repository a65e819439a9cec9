import StatementClient.Text.Quoted
import StatementClient.Text.Case
import StatementClient.Text.Idna
import StatementClient.Exchange.Request

/-!
# Hosts of addresses

How the host of an address is checked and written.

* A host made of four runs of ASCII digits, each pair of runs joined by any one character, must
  be a dotted IPv4 address: four parts of at most three digits, no leading zero, each at most 255.
* A host in square brackets must be an IPv6 address inside them (`isIPv6`): hextets of at most
  four hex digits, at most one `::`, an optional dotted IPv4 tail and an optional zone after `%`.
  It is written without the brackets, which the text of an address puts back.
* Any other host of ASCII is written in lower case, each character outside the unreserved ones,
  the sub-delimiters and ``"`{}%|\`` percent-encoded.
* A host beyond ASCII is written in lower case, then in ASCII by the IDNA rules.

`encodeHost` gives the host as written, or the fault that names the refused host.
-/

namespace StatementClient

/-- Whether a character is an ASCII digit. -/
def isAsciiDigit (c : Char) : Bool := '0' ≤ c && c ≤ '9'

/-- Whether some non-empty run of ASCII digits at the front of `cs` is followed by a rest that
`after` accepts. -/
def digitsThen (after : List Char → Bool) : List Char → Bool
  | [] => false
  | c :: rest => isAsciiDigit c && (after rest || digitsThen after rest)

/-- Whether a text is `count + 1` runs of ASCII digits, each pair joined by any one character. -/
def digitRuns : Nat → List Char → Bool
  | 0, cs => digitsThen List.isEmpty cs
  | n + 1, cs => digitsThen (fun rest => match rest with
      | _ :: more => digitRuns n more
      | [] => false) cs

/-- Whether a host has the shape of an IPv4 address: four runs of digits joined by single
characters. -/
def looksLikeIPv4 (host : String) : Bool := digitRuns 3 host.toList

/-- Whether a part of a dotted IPv4 address is valid: one to three ASCII digits, no leading
zero, at most 255. -/
def ipv4PartValid (part : String) : Bool :=
  let cs := part.toList
  !cs.isEmpty && cs.all isAsciiDigit && cs.length ≤ 3 && (part = "0" || cs.head? ≠ some '0') &&
  (part.toNat?.getD 256) ≤ 255

/-- Whether a text is a dotted IPv4 address. -/
def isIPv4 (s : String) : Bool :=
  let parts := s.splitOn "."
  parts.length = 4 && parts.all ipv4PartValid

/-- Whether a part of an IPv6 address is a valid hextet: one to four hex digits. -/
def hextetValid (part : String) : Bool :=
  let cs := part.toList
  !cs.isEmpty && cs.length ≤ 4 && cs.all fun c =>
    isAsciiDigit c || ('a' ≤ c && c ≤ 'f') || ('A' ≤ c && c ≤ 'F')

/-- Whether the colon-separated parts of an IPv6 address, its IPv4 tail already written as two
hextets, form a valid address. -/
def ipv6PartsValid (parts : List String) : Bool :=
  let n := parts.length
  let inner := (List.range n).filter fun i => 0 < i && i + 1 < n && parts.getD i "" = ""
  if n > 9 then false
  else
    match inner with
    | [] =>
      n = 8 && parts.all hextetValid
    | [skip] =>
      let hi := if parts.head? = some "" then skip - 1 else skip
      let lo := if parts.getLast? = some "" then n - skip - 2 else n - skip - 1
      let leadOk := parts.head? ≠ some "" || skip = 1
      let trailOk := parts.getLast? ≠ some "" || skip = n - 2
      leadOk && trailOk && hi + lo < 8 &&
        ((parts.take skip).drop (skip - hi)).all hextetValid &&
        ((parts.drop (skip + 1)).take lo).all hextetValid
    | _ => false

/-- Whether a text is an IPv6 address, with an optional zone after `%`. -/
def isIPv6 (s : String) : Bool :=
  let (addr, zoneOk) := match s.splitOn "%" with
    | [a] => (a, true)
    | [a, z] => (a, !z.isEmpty)
    | _ => ("", false)
  if !zoneOk || addr.isEmpty then false
  else
    let parts := addr.splitOn ":"
    if parts.length < 3 then false
    else
      match parts.getLast? with
      | some last =>
        if last.contains '.' then
          isIPv4 last && ipv6PartsValid (parts.dropLast ++ ["0", "0"])
        else ipv6PartsValid parts
      | none => false

/-- Whether a character stays as it is in a registered host name. -/
def hostKeeps (c : Char) : Bool :=
  (c.toNat < 0x80 && isUnreserved (UInt8.ofNat c.toNat)) || "!$&\x27()*+,;=\"`\x7b\x7d%|\\".contains c

/-- The percent-encoding of a character by its UTF-8 bytes, in capitals. -/
def percentChar (c : Char) : String :=
  String.join (c.toString.toUTF8.toList.map fun b => "%" ++ (Text.hexDigits 2 b.toNat).toUpper)

/-- Text with every character that `keeps` refuses percent-encoded. -/
def quoteWith (keeps : Char → Bool) (s : String) : String :=
  String.join (s.toList.map fun c => if keeps c then c.toString else percentChar c)

/-- The message of the error of writing text as UTF-8 when it holds lone surrogates, which have
no UTF-8 form: the first run of them, by position. -/
def utf8Refusal? (s : String) : Option String :=
  let cs := s.toList
  let isLone := fun (c : Char) => (Text.surrogateOf? c).isSome
  match cs.findIdx? isLone with
  | none => none
  | some start =>
    let run := ((cs.drop start).takeWhile isLone).length
    let what :=
      if run = 1 then
        "character " ++ Text.quoteLiteral (cs.getD start ' ').toString ++ " in position " ++
          toString start
      else "characters in position " ++ toString start ++ "-" ++ toString (start + run - 1)
    some ("\x27utf-8\x27 codec can\x27t encode " ++ what ++ ": surrogates not allowed")

/-- The host as written, or the message that refuses it. -/
def encodeHost (host : String) : Except String String :=
  if host.isEmpty then .ok ""
  else if looksLikeIPv4 host then
    if isIPv4 host then .ok host else .error ("Invalid IPv4 address: " ++ Text.quoteLiteral host)
  else if host.startsWith "[" && host.endsWith "]" && host.length ≥ 2 then
    let inner := String.ofList ((host.toList.drop 1).dropLast)
    if isIPv6 inner then .ok inner else .error ("Invalid IPv6 address: " ++ Text.quoteLiteral host)
  else if host.toList.all (·.toNat < 0x80) then
    .ok (quoteWith hostKeeps (Text.lower host))
  else
    match Text.toAscii (Text.lower host) with
    | some written => .ok written
    | none => .error ("Invalid IDNA hostname: " ++ Text.quoteLiteral host)

end StatementClient
