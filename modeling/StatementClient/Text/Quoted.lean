import StatementClient.Text.Printable
import StatementClient.Text.Surrogate

/-!
# Quoted literals and escaped strings

Two ways of writing a string between quotes.

* `quoteLiteral` writes the literal of messages: single quotes, or double quotes when the text
  holds a single quote and no double quote. The backslash and the chosen quote are escaped, tab,
  newline and carriage return have their letters, and a hidden character (`isShown`) is written
  by its code point in hex, in two, four or eight digits; the stand-in of a lone surrogate is
  written as the surrogate, by `\u` and four digits.
* `escapeAscii` writes the body of a document string in ASCII only: the quote, the backslash and
  the five controls with letters are escaped by letter, every other character outside the
  printable ASCII range by `\u` and four hex digits, as a surrogate pair above the first plane;
  the stand-in of a lone surrogate is written as the surrogate itself.
-/

namespace StatementClient.Text

/-- Lowercase hex digits of `n`, left-padded with zeros to `width`. -/
def hexDigits (width n : Nat) : String :=
  let s := String.ofList (Nat.toDigits 16 n)
  String.ofList (List.replicate (width - s.length) '0') ++ s

/-- The quote a literal of `s` is written with. -/
def literalQuote (s : String) : Char :=
  if s.contains '\'' && !s.contains '"' then '"' else '\''

/-- How a character is written inside a literal quoted by `q`. -/
def literalChar (q : Char) (c : Char) : String :=
  match surrogateOf? c with
  | some n => "\\u" ++ hexDigits 4 n
  | none =>
    if c = q ∨ c = '\\' then "\\" ++ c.toString
    else if c = '\t' then "\\t"
    else if c = '\n' then "\\n"
    else if c = '\r' then "\\r"
    else if isShown c then c.toString
    else if c.toNat < 0x100 then "\\x" ++ hexDigits 2 c.toNat
    else if c.toNat < 0x10000 then "\\u" ++ hexDigits 4 c.toNat
    else "\\U" ++ hexDigits 8 c.toNat

/-- The quoted literal of a string. -/
def quoteLiteral (s : String) : String :=
  let q := literalQuote s
  q.toString ++ String.join (s.toList.map (literalChar q)) ++ q.toString

/-- How a character is written inside a document string of ASCII only. -/
def asciiChar (c : Char) : String :=
  match surrogateOf? c with
  | some n => "\\u" ++ hexDigits 4 n
  | none =>
    if c = '"' then "\\\""
    else if c = '\\' then "\\\\"
    else if c = '\n' then "\\n"
    else if c = '\r' then "\\r"
    else if c = '\t' then "\\t"
    else if c.toNat = 8 then "\\b"
    else if c.toNat = 12 then "\\f"
    else if 0x20 ≤ c.toNat ∧ c.toNat < 0x7f then c.toString
    else if c.toNat < 0x10000 then "\\u" ++ hexDigits 4 c.toNat
    else
      let v := c.toNat - 0x10000
      "\\u" ++ hexDigits 4 (0xD800 + v / 0x400) ++ "\\u" ++ hexDigits 4 (0xDC00 + v % 0x400)

/-- How a character is written inside a document string that keeps characters beyond ASCII:
the quote, the backslash and the five controls with letters by letter, other controls by `\u`
and four hex digits, and everything else as it is. -/
def documentChar (c : Char) : String :=
  if c = '"' then "\\\""
  else if c = '\\' then "\\\\"
  else if c = '\n' then "\\n"
  else if c = '\r' then "\\r"
  else if c = '\t' then "\\t"
  else if c.toNat = 8 then "\\b"
  else if c.toNat = 12 then "\\f"
  else if c.toNat < 0x20 then "\\u" ++ hexDigits 4 c.toNat
  else c.toString

/-- A document string that keeps characters beyond ASCII, with its quotes. -/
def escapeDocument (s : String) : String :=
  "\"" ++ String.join (s.toList.map documentChar) ++ "\""

/-- A document string in ASCII only, with its quotes. -/
def escapeAscii (s : String) : String :=
  "\"" ++ String.join (s.toList.map asciiChar) ++ "\""

example : quoteLiteral "it's" = "\"it's\"" := by cbv
example : quoteLiteral "a\x7fb" = "'a\\x7fb'" := by cbv

end StatementClient.Text
