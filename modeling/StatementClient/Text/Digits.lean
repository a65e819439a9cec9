import StatementClient.Text.Blank

/-!
# Decimal digits and integers written in text

A decimal digit is any character of the Unicode 14 category Nd; those come in runs of ten, from a
zero to a nine, and `decimalZeros` lists the zero of every run. `readInt?` reads an integer as
the interpreter's own integer conversion does: blanks around it are dropped, a sign may lead, and
single underscores may stand between digits; at most 4300 digits are read.
-/

namespace StatementClient.Text

/-- The zero of every run of decimal digits. -/
def decimalZeros : List Nat :=
  [
   0x30, 0x660, 0x6F0, 0x7C0, 0x966, 0x9E6, 0xA66, 0xAE6, 0xB66, 0xBE6,
   0xC66, 0xCE6, 0xD66, 0xDE6, 0xE50, 0xED0, 0xF20, 0x1040, 0x1090, 0x17E0,
   0x1810, 0x1946, 0x19D0, 0x1A80, 0x1A90, 0x1B50, 0x1BB0, 0x1C40, 0x1C50, 0xA620,
   0xA8D0, 0xA900, 0xA9D0, 0xA9F0, 0xAA50, 0xABF0, 0xFF10, 0x104A0, 0x10D30, 0x11066,
   0x110F0, 0x11136, 0x111D0, 0x112F0, 0x11450, 0x114D0, 0x11650, 0x116C0, 0x11730, 0x118E0,
   0x11950, 0x11C50, 0x11D50, 0x11DA0, 0x16A60, 0x16AC0, 0x16B50, 0x1D7CE, 0x1D7D8, 0x1D7E2,
   0x1D7EC, 0x1D7F6, 0x1E140, 0x1E2F0, 0x1E950, 0x1FBF0]

/-- The value of a decimal digit. -/
def decimalValue (c : Char) : Option Nat :=
  decimalZeros.findSome? fun z => if z ≤ c.toNat ∧ c.toNat < z + 10 then some (c.toNat - z) else none

/-- The most digits an integer written in text may have. -/
def maxIntDigits : Nat := 4300

/-- The value of digits with single underscores between them, most significant first: none
when the text is empty, starts or ends with an underscore, or has two in a row. -/
def digitsWithUnderscores (cs : List Char) : Option (List Nat) :=
  if cs.head? = some '_' || cs.getLast? = some '_' then none
  else
    let rec go : List Char → Option (List Nat)
      | [] => some []
      | '_' :: '_' :: _ => none
      | '_' :: rest => go rest
      | c :: rest => do
        let d ← decimalValue c
        let ds ← go rest
        pure (d :: ds)
    match go cs with
    | some [] => none
    | r => r

/-- The integer written in a text, or none. -/
def readInt? (s : String) : Option Int :=
  let cs := (trim s).toList
  let (negative, body) := match cs with
    | '-' :: rest => (true, rest)
    | '+' :: rest => (false, rest)
    | _ => (false, cs)
  match digitsWithUnderscores body with
  | none => none
  | some ds =>
    if ds.length > maxIntDigits then none
    else
      let n : Int := ds.foldl (fun (acc : Int) (d : Nat) => 10 * acc + d) 0
      some (if negative then -n else n)

example : readInt? " 8_0 " = some 80 ∧ readInt? "٨٠" = some 80 ∧ readInt? "8__0" = none ∧
    readInt? "_8" = none ∧ readInt? "-12" = some (-12) ∧ readInt? "" = none := by cbv; decide

end StatementClient.Text
