import StatementClient.Decimal.Shortest

/-!
# The double nearest to a decimal

`nearest c s` is the double nearest to `c · 10^s`, a tie going to the even significand, and
infinity when the value is at least the midpoint past the largest finite double. The quotient is
taken exactly in `Nat`: the significand is the integer part of the value over a power of two
chosen so that it has 53 bits (fewer below the normal range), and the remainder decides the
rounding. Decimals far outside the range of doubles are settled by their digit count alone,
so that no power of ten beyond a few hundred digits is formed.
-/

namespace StatementClient.Decimal

/-- The double with the given bits, for a significand below `2^53` and a biased exponent. -/
def assemble (negative : Bool) (biased : Nat) (fraction : Nat) : Float :=
  Float.ofBits (UInt64.ofNat ((if negative then Nat.pow 2 63 else 0) + biased * Nat.pow 2 52 + fraction))

/-- Positive infinity, or negative. -/
def infinity (negative : Bool) : Float :=
  assemble negative 2047 0

/-- Rounds `num / den` to the nearest integer, ties to even. -/
def roundHalfEven (num den : Nat) : Nat :=
  let q := num / den
  let r := num % den
  if 2 * r > den then q + 1 else if 2 * r = den ∧ q % 2 = 1 then q + 1 else q

/-- The double nearest to `num / den` for `num, den > 0`. -/
def nearestRatio (negative : Bool) (num den : Nat) : Float :=
  let t : Int := (Nat.log2 num : Int) - (Nat.log2 den : Int)
  -- the exponent that leaves a significand of 53 or 54 bits, not below the subnormal one
  let e₀ : Int := max (t - 53) (-1074)
  let quotient (e : Int) : Nat := (num * Nat.pow 2 (-e).toNat) / (den * Nat.pow 2 e.toNat)
  let e : Int := if quotient e₀ ≥ Nat.pow 2 53 then e₀ + 1 else e₀
  let m := roundHalfEven (num * Nat.pow 2 (-e).toNat) (den * Nat.pow 2 e.toNat)
  -- rounding up may carry into the next binade
  let (m, e) := if m = Nat.pow 2 53 then (Nat.pow 2 52, e + 1) else (m, e)
  if m < Nat.pow 2 52 then assemble negative 0 m
  else
    let biased := e + 1075
    if biased ≥ 2047 then infinity negative
    else assemble negative biased.toNat (m - Nat.pow 2 52)

/-- The double nearest to `±c · 10^s`. -/
def nearest (negative : Bool) (c : Nat) (s : Int) : Float :=
  if c = 0 then assemble negative 0 0
  else
    let magnitude := (digitCount c : Int) + s
    if magnitude > 310 then infinity negative
    else if magnitude < -330 then assemble negative 0 0
    else nearestRatio negative (c * Nat.pow 10 s.toNat) (Nat.pow 10 (-s).toNat)

/-- The double nearest to an integer, or `none` when it rounds past the largest finite double. -/
def ofInt? (n : Int) : Option Float :=
  let x := nearest (n < 0) n.natAbs 0
  if x.isInf then none else some x

end StatementClient.Decimal
