import StatementClient.Json.Literal
import StatementClient.Decimal.Nearest
import StatementClient.Decimal.Read
import StatementClient.Text.Quoted

/-!
# Numbers in documents

Configuration values and status codes arrive as document values and are compared and combined
as numbers: truth values count as `0` and `1`, integers are exact, floats are doubles. An integer
and a float compare by their exact values; a NaN is neither below, above nor equal to anything.
Arithmetic keeps integers exact and turns to floats as soon as one side is a float; an integer
too large for a double cannot take part. Comparing a value that is no number is a type fault,
whose message names the operator and both kinds.
-/

namespace StatementClient

/-- A number: an exact integer or a double. -/
inductive Number where
  | int (n : Int)
  | float (x : Float)
  deriving Inhabited, DecidableEq

namespace Number

/-- The document value of a number. -/
def toJson : Number → Json
  | .int n => .int n
  | .float x => .float x

/-- The exact value of a finite double as a numerator and a power of two. -/
def exactOf (x : Float) : Int × Int :=
  let b := Decimal.Binary.ofFloat x
  ((if b.negative then -(b.mantissa : Int) else b.mantissa), b.exponent)

/-- `a` compared with `m · 2^e`, exactly. -/
def compareIntScaled (a : Int) (m : Int) (e : Int) : Ordering :=
  if e ≥ 0 then compare a (m * Int.pow 2 e.toNat) else compare (a * Int.pow 2 (-e).toNat) m

/-- An integer compared with a double; `none` when the double is NaN. -/
def compareIntFloat (a : Int) (x : Float) : Option Ordering :=
  if x.isNaN then none
  else if x.isInf then some (if x > 0 then .lt else .gt)
  else
    let (m, e) := exactOf x
    some (compareIntScaled a m e)

/-- Two numbers compared exactly; `none` when a NaN takes part. -/
def compare? : Number → Number → Option Ordering
  | .int a, .int b => some (compare a b)
  | .int a, .float y => compareIntFloat a y
  | .float x, .int b => (compareIntFloat b x).map Ordering.swap
  | .float x, .float y =>
    if x.isNaN || y.isNaN then none
    else some (if x < y then .lt else if x == y then .eq else .gt)

/-- The double of a number, or `none` for an integer beyond the range of doubles. -/
def toFloat? : Number → Option Float
  | .int n => Decimal.ofInt? n
  | .float x => some x

end Number

/-- A comparison operator. -/
inductive Comparison where
  | lt
  | le
  | gt
  | ge
  deriving DecidableEq, Inhabited

/-- The symbol of a comparison. -/
def Comparison.symbol : Comparison → String
  | .lt => "<"
  | .le => "<="
  | .gt => ">"
  | .ge => ">="

/-- Whether an ordering satisfies a comparison. -/
def Comparison.holds (op : Comparison) (o : Ordering) : Bool :=
  match op, o with
  | .lt, .lt => true
  | .le, .lt => true
  | .le, .eq => true
  | .gt, .gt => true
  | .ge, .gt => true
  | .ge, .eq => true
  | _, _ => false

/-- The order a comparison stands for. -/
def Comparison.Rel {α : Type} [LT α] [LE α] (op : Comparison) (a b : α) : Prop :=
  match op with
  | .lt => a < b
  | .le => a ≤ b
  | .gt => b < a
  | .ge => b ≤ a

instance {α : Type} [LT α] [LE α] [DecidableLT α] [DecidableLE α] (op : Comparison) (a b : α) :
    Decidable (op.Rel a b) := by
  cases op <;> unfold Comparison.Rel <;> infer_instance

/-- Values that cannot be compared, or numbers that cannot be combined. -/
inductive NumberFault where
  /-- The values are of kinds `left` and `right`, which `op` does not compare. -/
  | notComparable (op : Comparison) (left right : String)
  /-- The operator `op` does not apply to kinds `left` and `right`. -/
  | unsupportedOperands (op : String) (left right : String)
  /-- An integer is too large to become a double. -/
  | intTooLarge
  /-- A sequence is multiplied by a number of kind `kind`, which is not an integer. -/
  | sequenceByNonInt (kind : String)
  /-- A text that is no numeral is converted to a double. -/
  | notNumeral (text : String)
  /-- A value of kind `kind`, neither text nor a number, is converted to a double. -/
  | notConvertible (kind : String)
  deriving Inhabited

/-- The class of a number fault. -/
def NumberFault.className : NumberFault → String
  | .intTooLarge => "OverflowError"
  | .notNumeral _ => "ValueError"
  | _ => "TypeError"

/-- The message of a number fault. -/
def NumberFault.message : NumberFault → String
  | .notComparable op l r =>
    "'" ++ op.symbol ++ "' not supported between instances of '" ++ l ++ "' and '" ++ r ++ "'"
  | .unsupportedOperands op l r =>
    "unsupported operand type(s) for " ++ op ++ ": '" ++ l ++ "' and '" ++ r ++ "'"
  | .intTooLarge => "int too large to convert to float"
  | .sequenceByNonInt k => "can\x27t multiply sequence by non-int of type \x27" ++ k ++ "\x27"
  | .notNumeral s => "could not convert string to float: " ++ Text.quoteLiteral s
  | .notConvertible k => "float() argument must be a string or a real number, not \x27" ++ k ++ "\x27"

namespace Number

/-- The double of a number, or the fault of an integer beyond the range of doubles. -/
def asFloat (n : Number) : Except NumberFault Float :=
  match n.toFloat? with
  | some x => .ok x
  | none => .error .intTooLarge

/-- Sum: exact for two integers, a double otherwise. -/
def add : Number → Number → Except NumberFault Number
  | .int a, .int b => .ok (.int (a + b))
  | a, b => do pure (.float ((← a.asFloat) + (← b.asFloat)))

/-- Difference: exact for two integers, a double otherwise. -/
def sub : Number → Number → Except NumberFault Number
  | .int a, .int b => .ok (.int (a - b))
  | a, b => do pure (.float ((← a.asFloat) - (← b.asFloat)))

/-- Product: exact for two integers, a double otherwise. -/
def mul : Number → Number → Except NumberFault Number
  | .int a, .int b => .ok (.int (a * b))
  | a, b => do pure (.float ((← a.asFloat) * (← b.asFloat)))

/-- Negation. -/
def neg : Number → Number
  | .int a => .int (-a)
  | .float x => .float (-x)

/-- The larger of `0.0` and `n`: `n` only when it is above zero, so a NaN gives `0.0`. -/
def atLeastZero (n : Number) : Number :=
  if (Number.compare? n (.float 0.0)) = some .gt then n else .float 0.0

end Number

namespace Json

/-- The number of a value: truth values as `0` and `1`. -/
def number? : Json → Option Number
  | .bool b => some (.int (if b then 1 else 0))
  | .int n => some (.int n)
  | .float x => some (.float x)
  | _ => none

/-- The difference of two values that are numbers; a type fault otherwise. -/
def subtract (a b : Json) : Except NumberFault Number :=
  match a.number?, b.number? with
  | some x, some y => x.sub y
  | _, _ => .error (.unsupportedOperands "-" a.typeName b.typeName)

/-- The double of a value under the float conversion: a number or truth value by its value,
text by `Decimal.readFloat?`. -/
def toFloat (v : Json) : Except NumberFault Float :=
  match v, v.number? with
  | .str s, _ =>
    match Decimal.readFloat? s with
    | some x => .ok x
    | none => .error (.notNumeral s)
  | _, some n => n.asFloat
  | _, none => .error (.notConvertible v.typeName)

/-- Whether `a op b` holds, for two numbers; a type fault otherwise. -/
def compareBy (op : Comparison) (a b : Json) : Except NumberFault Bool :=
  match a.number?, b.number? with
  | some x, some y => .ok ((Number.compare? x y).any op.holds)
  | _, _ => .error (.notComparable op a.typeName b.typeName)

end Json

end StatementClient
