/-!
# Shortest decimal digits of a double

A finite double is `m · 2^e`. Every real between the midpoints to its two neighbours reads back
as it, the midpoints themselves included when `m` is even, since a reader breaks ties towards
the even significand. `Binary.shortest` finds the fewest significant decimal digits that land in
that interval. On that grid it takes the candidate nearer to the value, and of two at the same
distance the one with the even last digit. All comparisons are exact, in `Nat`.
-/

namespace StatementClient.Decimal

/-- A finite double as sign, significand and binary exponent: its value is `±mantissa · 2^exponent`. -/
structure Binary where
  negative : Bool
  mantissa : Nat
  exponent : Int
  /-- The gap to the next smaller double is half the gap to the next larger one. -/
  narrowBelow : Bool

/-- Splits the bits of a double. Meaningful for finite values only. -/
def Binary.ofFloat (x : Float) : Binary :=
  let bits : Nat := x.toBits.toNat
  let frac : Nat := bits % Nat.pow 2 52
  let biased : Nat := (bits / Nat.pow 2 52) % Nat.pow 2 11
  { negative := bits / Nat.pow 2 63 == 1
    mantissa := if biased = 0 then frac else frac + Nat.pow 2 52
    exponent := if biased = 0 then -1074 else (biased : Int) - 1075
    narrowBelow := frac = 0 && biased > 1 }

/-- `a · 2^p` compared with `b · 10^s`, exactly. -/
def compareScaled (a : Nat) (p : Int) (b : Nat) (s : Int) : Ordering :=
  let lhs := a * Nat.pow 2 p.toNat * Nat.pow 10 (-s).toNat
  let rhs := b * Nat.pow 10 s.toNat * Nat.pow 2 (-p).toNat
  compare lhs rhs

/-- `⌊a · 2^p / 10^s⌋`. -/
def floorScaled (a : Nat) (p : Int) (s : Int) : Nat :=
  (a * Nat.pow 2 p.toNat * Nat.pow 10 (-s).toNat) / (Nat.pow 2 (-p).toNat * Nat.pow 10 s.toNat)

/-- Number of decimal digits of a positive number (one for zero). -/
def digitCount (n : Nat) : Nat :=
  (Nat.toDigits 10 n).length

/-- The decimal exponent `k` with `10^k ≤ a · 2^p < 10^(k+1)`, for `a > 0`: an estimate from the
bit length, corrected by exact comparisons. -/
def decimalExponent (a : Nat) (p : Int) : Int :=
  let estimate : Int := ((Nat.log2 a : Int) + p) * 30103 / 100000 - 2
  let steps : List Int := (List.range 6).map (fun (i : Nat) => estimate + (i : Int))
  -- the largest candidate whose power of ten does not exceed the value
  steps.foldl (fun best k => if compareScaled a p 1 k != .lt then k else best) estimate

/-- A decimal `digits · 10^scale` with no trailing zero in `digits` (unless it is zero). -/
structure Digits where
  digits : Nat
  scale : Int

/-- Removes trailing zeros, moving them into the scale. -/
def Digits.trim (d : Digits) : Digits :=
  let rec go (fuel : Nat) (c : Nat) (s : Int) : Digits :=
    match fuel with
    | 0 => ⟨c, s⟩
    | fuel + 1 => if c ≠ 0 ∧ c % 10 = 0 then go fuel (c / 10) (s + 1) else ⟨c, s⟩
  go (digitCount d.digits) d.digits d.scale

/-- The position of the decimal point: the value is `0.d₁d₂… · 10^pointPosition`. -/
def Digits.pointPosition (d : Digits) : Int :=
  (digitCount d.digits : Int) + d.scale

/-- Whether `c · 10^s` reads back as the double: it lies between the midpoints `lo · 2^u` and
`hi · 2^u`, ends included when `closed`. -/
def within (lo hi : Nat) (u : Int) (closed : Bool) (c : Nat) (s : Int) : Bool :=
  let above := compareScaled lo u c s
  let below := compareScaled hi u c s
  (above == .lt || (closed && above == .eq)) && (below == .gt || (closed && below == .eq))

/-- Of the candidates `c` and `c + 1` on the grid `10^s`, the one nearer to `v · 2^u`, the even
one on a tie. -/
def nearer (v : Nat) (u : Int) (c : Nat) (s : Int) : Nat :=
  match compareScaled (2 * v) u (2 * c + 1) s with
  | .lt => c
  | .gt => c + 1
  | .eq => if c % 2 = 0 then c else c + 1

/-- The fewest significant digits that read back as a positive finite double, nearest on ties
of count. -/
def Binary.shortest (b : Binary) : Digits :=
  let u := b.exponent - 2
  let v := 4 * b.mantissa
  let lo := if b.narrowBelow then v - 1 else v - 2
  let hi := v + 2
  let closed := b.mantissa % 2 = 0
  let k := decimalExponent v u
  let rec search (count : Nat) (left : Nat) : Digits :=
    let s := k - count + 1
    let c := floorScaled v u s
    let inLow := within lo hi u closed c s
    let inHigh := within lo hi u closed (c + 1) s
    match left with
    | 0 => Digits.trim ⟨nearer v u c s, s⟩
    | left + 1 =>
      if inLow && inHigh then Digits.trim ⟨nearer v u c s, s⟩
      else if inLow then Digits.trim ⟨c, s⟩
      else if inHigh then Digits.trim ⟨c + 1, s⟩
      else search (count + 1) left
  search 1 16

/-- The shortest digits of the magnitude of a finite double; zero is the digit `0`. -/
def shortestOf (x : Float) : Digits :=
  let b := Binary.ofFloat x
  if b.mantissa = 0 then ⟨0, 0⟩ else b.shortest

end StatementClient.Decimal
