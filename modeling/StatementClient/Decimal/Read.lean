import StatementClient.Decimal.Nearest
import StatementClient.Text.Blank
import StatementClient.Text.Digits

/-!
# Reading doubles from text

`ofNumeral?` reads the numeral grammar shared by every float conversion here: an optional sign,
then digits with at most one point and a digit on at least one side of it, then an optional
exponent of `e` or `E`, an optional sign and at least one digit; or, after the sign, one of the
words `inf`, `infinity` and `nan` in any case. The value is the double nearest to the numeral.

`readFloat?` reads text as the interpreter's float conversion does. Every blank becomes a space
and every decimal digit of any script its ASCII digit first; an underscore must stand between
two digits and is then dropped; spaces around the numeral are ignored.
-/

namespace StatementClient.Decimal

/-- Whether a character is an ASCII decimal digit. -/
def isAsciiDigit (c : Char) : Bool := '0' ≤ c && c ≤ '9'

/-- The value of a run of ASCII digits. -/
def asciiDigitsValue (ds : List Char) : Nat :=
  ds.foldl (fun n c => 10 * n + (c.toNat - '0'.toNat)) 0

/-- The double of a numeral, or none when the characters are no numeral. -/
def ofNumeral? (cs : List Char) : Option Float :=
  let (negative, body) := match cs with
    | '-' :: rest => (true, rest)
    | '+' :: rest => (false, rest)
    | _ => (false, cs)
  let word := String.ofList (body.map Char.toLower)
  if word = "inf" || word = "infinity" then some (infinity negative)
  else if word = "nan" then some (0.0 / 0.0)
  else
    let whole := body.takeWhile isAsciiDigit
    let rest := body.dropWhile isAsciiDigit
    let (frac, rest) := match rest with
      | '.' :: more => (more.takeWhile isAsciiDigit, more.dropWhile isAsciiDigit)
      | _ => ([], rest)
    let exponent : Option Int := match rest with
      | [] => some 0
      | e :: more =>
        if e = 'e' || e = 'E' then
          let (neg, ds) := match more with
            | '-' :: ds => (true, ds)
            | '+' :: ds => (false, ds)
            | ds => (false, ds)
          if !ds.isEmpty && ds.all isAsciiDigit then
            let n : Int := asciiDigitsValue ds
            some (if neg then -n else n)
          else none
        else none
    if whole.isEmpty && frac.isEmpty then none
    else
      exponent.map fun e =>
        nearest negative (asciiDigitsValue (whole ++ frac)) (e - frac.length)

/-- A character as the float conversion sees it: a blank is a space, a decimal digit of any
script its ASCII digit, and any other character beyond ASCII a question mark, which no numeral
holds. -/
def asciiForm (c : Char) : Char :=
  if Text.isBlank c then ' '
  else
    match Text.decimalValue c with
    | some d => Char.ofNat ('0'.toNat + d)
    | none => if c.toNat < 128 then c else '?'

/-- The characters without their underscores, when each stands between two digits; `prev` is
the character before them. -/
def dropUnderscores (prev : Char) : List Char → Option (List Char)
  | [] => if prev = '_' then none else some []
  | '_' :: rest => if isAsciiDigit prev then dropUnderscores '_' rest else none
  | c :: rest =>
    if prev = '_' && !isAsciiDigit c then none
    else (dropUnderscores c rest).map (c :: ·)

/-- The double a text denotes under the float conversion, or none. -/
def readFloat? (s : String) : Option Float :=
  match dropUnderscores ' ' (s.toList.map asciiForm) with
  | none => none
  | some cs => ofNumeral? ((cs.dropWhile (· = ' ')).reverse.dropWhile (· = ' ')).reverse

example : dropUnderscores ' ' " 1_0 ".toList = some " 10 ".toList ∧
    dropUnderscores ' ' "1__0".toList = none ∧ dropUnderscores ' ' "_1".toList = none ∧
    dropUnderscores ' ' "1_".toList = none ∧ dropUnderscores ' ' "1_.5".toList = none := by
  decide

end StatementClient.Decimal
