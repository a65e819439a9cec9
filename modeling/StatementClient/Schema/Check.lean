import StatementClient.Schema.Issue
import StatementClient.Wire.Enums
import StatementClient.Json.Number
import StatementClient.Json.Reader

/-!
# Checking values against field types

A `Checked α` is a value of type `α` or the issues found, in field order. The checks of this
module are lax: a field accepts a value of its own kind and also the forms that say the same
thing unambiguously.

* Text accepts strings only.
* An integer accepts an integer; a truth value as `0` or `1`; a float without fraction part (a
  NaN or an infinity is no finite number, a fraction is refused); a string holding an integer
  after blanks are trimmed, optionally with a point and zeros after it.
* A float accepts a float, an integer, a truth value, and a string holding a decimal, `inf`,
  `infinity` or `nan` in any case, after blanks are trimmed.
* A truth value accepts a truth value, the integers `0` and `1`, floats equal to them, and the
  words `0 off f false n no` and `1 on t true y yes` in any case.
* A wire-named member accepts a string that is one of its wire names.

Models combine their fields with `Checked.both`, which keeps the issues of both sides in order.
-/

namespace StatementClient

/-- A checked value, or the issues found. -/
abbrev Checked (α : Type) := Except (List Issue) α

namespace Checked

/-- A single issue at the value itself. -/
def fail {α : Type} (kind : IssueKind) : Checked α := .error [Issue.here kind]

/-- Both checks, with the issues of both when both fail. -/
def both {α β : Type} (a : Checked α) (b : Checked β) : Checked (α × β) :=
  match a, b with
  | .ok x, .ok y => .ok (x, y)
  | .error e₁, .error e₂ => .error (e₁ ++ e₂)
  | .error e, .ok _ => .error e
  | .ok _, .error e => .error e

/-- The issues of a check moved under a field or an item. -/
def under {α : Type} (step : LocStep) (c : Checked α) : Checked α :=
  c.mapError (List.map (Issue.under step))

/-- Member `name` of an object's members checked by `check`, or `default` when absent (a
missing issue when there is no default). -/
def field {α : Type} (fields : List (String × Json)) (name : String) (check : Json → Checked α)
    (default : Option α) : Checked α :=
  match Json.lookup fields name, default with
  | some v, _ => under (.field name) (check v)
  | none, some d => .ok d
  | none, none => .error [⟨.missing, [.field name]⟩]

/-- The members of a value that must be an object. -/
def members (v : Json) : Checked (List (String × Json)) :=
  match v with
  | .obj fields => .ok fields
  | _ => fail .modelType

/-- An optional value: null is absent. -/
def optional {α : Type} (check : Json → Checked α) (v : Json) : Checked (Option α) :=
  match v with
  | .null => .ok none
  | v => (check v).map some

/-- Every item of an array, with the issues of each under its index. -/
def items {α : Type} (check : Json → Checked α) (v : Json) : Checked (List α) :=
  match v with
  | .arr xs =>
    let rec go (i : Nat) : List Json → Checked (List α)
      | [] => .ok []
      | x :: rest => (both (under (.index i) (check x)) (go (i + 1) rest)).map fun (a, b) => a :: b
    go 0 xs
  | _ => fail .listType

end Checked

namespace Check

/-- The characters trimmed around numbers written as text. -/
def isTrimmed (c : Char) : Bool :=
  [0x9, 0xA, 0xB, 0xC, 0xD, 0x20, 0x85, 0xA0, 0x1680, 0x2000, 0x2001, 0x2002, 0x2003, 0x2004,
   0x2005, 0x2006, 0x2007, 0x2008, 0x2009, 0x200A, 0x2028, 0x2029, 0x202F, 0x205F,
   0x3000].contains c.toNat

/-- Text without the trimmed characters at its ends. -/
def trimmed (s : String) : List Char :=
  ((s.toList.dropWhile isTrimmed).reverse.dropWhile isTrimmed).reverse

/-- Text made of characters: a lone surrogate in it is refused. -/
def wellFormed (s : String) : Checked String :=
  if Text.hasSurrogate s then Checked.fail .stringUnicode else .ok s

/-- Text. -/
def text (v : Json) : Checked String :=
  match v with
  | .str s => wellFormed s
  | _ => Checked.fail .stringType

/-- Text of at least `n` characters. -/
def textOfLength (n : Nat) (v : Json) : Checked String :=
  match text v with
  | .ok s => if s.length < n then Checked.fail .stringTooShort else .ok s
  | .error e => .error e

/-- Whether a text has two underscores in a row. -/
def hasDoubleUnderscore : List Char → Bool
  | '_' :: '_' :: _ => true
  | _ :: rest => hasDoubleUnderscore rest
  | [] => false

/-- A number's text with its underscores dropped; none when it starts or ends with one or has
two in a row. -/
def withoutUnderscores (cs : List Char) : Option (List Char) :=
  if !cs.contains '_' then some cs
  else if cs.head? = some '_' || cs.getLast? = some '_' || hasDoubleUnderscore cs then none
  else some (cs.filter (· ≠ '_'))

/-- The most digits the whole part of a number written in text may have. -/
def maxWholeDigits : Nat := 4300

/-- The integer written in a string: trimmed, an optional sign, digits with single underscores
between them, and an optional point followed only by zeros. More than 4300 digits in the leading
run of digits are too many, whatever follows them. -/
def integerOfString (s : String) : Checked Int :=
  let cs := trimmed s
  let (negative, body) := match cs with
    | '-' :: rest => (true, rest)
    | '+' :: rest => (false, rest)
    | _ => (false, cs)
  let run := body.takeWhile fun c => Json.isDigit c || c = '_'
  let rest := body.drop run.length
  match withoutUnderscores run with
  | none => Checked.fail .intParsing
  | some whole =>
    if whole.length > maxWholeDigits then Checked.fail .intParsingSize
    else if whole.isEmpty then Checked.fail .intParsing
    else if rest.isEmpty || (rest.head? = some '.' && (rest.drop 1).all (· = '0')) then
      let n : Int := Json.digitsValue whole
      .ok (if negative then -n else n)
    else Checked.fail .intParsing

/-- The integer of a float without fraction part, strictly between -2^63 and 2^63. -/
def integerOfFloat (x : Float) : Checked Int :=
  if x.isNaN || x.isInf then Checked.fail .finiteNumber
  else
    let (m, e) := Number.exactOf x
    let n? : Option Int :=
      if e ≥ 0 then some (m * Int.pow 2 e.toNat)
      else if m % Int.pow 2 (-e).toNat = 0 then some (m / Int.pow 2 (-e).toNat)
      else none
    match n? with
    | none => Checked.fail .intFromFloat
    | some n =>
      if n ≤ -(Int.pow 2 63) || n ≥ Int.pow 2 63 then Checked.fail .intParsingSize else .ok n

/-- An integer. -/
def integer (v : Json) : Checked Int :=
  match v with
  | .int n => .ok n
  | .bool b => .ok (if b then 1 else 0)
  | .float x => integerOfFloat x
  | .str s => (wellFormed s).bind integerOfString
  | _ => Checked.fail .intType

/-- A number not below zero. -/
def atLeastZero (n : Int) : Checked Int :=
  if n < 0 then Checked.fail .greaterThanEqual else .ok n

/-- A float. -/
def float (v : Json) : Checked Float :=
  match v with
  | .float x => .ok x
  | .int n =>
    match Decimal.ofInt? n with
    | some x => .ok x
    | none => Checked.fail .floatType
  | .bool b => .ok (if b then 1.0 else 0.0)
  | .str s =>
    (wellFormed s).bind fun s =>
      match (withoutUnderscores (trimmed s)).bind Decimal.ofNumeral? with
      | some x => .ok x
      | none => Checked.fail .floatParsing
  | _ => Checked.fail .floatType

/-- A float read from a document: an integer of any size becomes the nearest float, infinite
when too large. -/
def jsonFloat (v : Json) : Checked Float :=
  match v with
  | .int n => .ok (Decimal.nearest (n < 0) n.natAbs 0)
  | v => float v

/-- A float within `[lo, hi]`: the upper bound is checked first, and a NaN fails it. -/
def floatWithin (lo hi : Float) (x : Float) : Checked Float :=
  if !(x ≤ hi) then Checked.fail .lessThanEqual
  else if !(x ≥ lo) then Checked.fail .greaterThanEqual
  else .ok x

/-- The truth value of a word. -/
def flagOfWord (s : String) : Option Bool :=
  let w := s.toLower
  if s = "0" || w = "f" || w = "n" || w = "no" || w = "off" || w = "false" then some false
  else if s = "1" || w = "t" || w = "y" || w = "on" || w = "yes" || w = "true" then some true
  else none

/-- A truth value. -/
def flag (v : Json) : Checked Bool :=
  match v with
  | .bool b => .ok b
  | .str s =>
    (wellFormed s).bind fun s =>
      match flagOfWord s with
      | some b => .ok b
      | none => Checked.fail .boolParsing
  | .int n => if n = 0 then .ok false else if n = 1 then .ok true else Checked.fail .boolParsing
  | .float x =>
    match integerOfFloat x with
    | .ok 0 => .ok false
    | .ok 1 => .ok true
    | .ok _ => Checked.fail .boolParsing
    | .error _ => Checked.fail .boolType
  | _ => Checked.fail .boolType

/-- A member of a wire-named enumeration: a string among its wire names. -/
def wire (α : Type) [WireEnum α] (v : Json) : Checked α :=
  match v with
  | .str _ =>
    match (WireEnum.parse v : Except ParseFault α) with
    | .ok m => .ok m
    | .error f => Checked.fail (.valueError (f.message (WireEnum.enumName α)))
  | _ =>
    Checked.fail (.valueError ("expected a " ++ WireEnum.enumName α ++ " wire name, got " ++
      v.typeName))

end Check

end StatementClient
