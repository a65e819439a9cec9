import StatementClient.Decimal.Shortest

/-!
# Writing a double as text

A double is written with its shortest digits (`shortestOf`). A `FloatStyle` records the choices
that are left: for which positions of the decimal point the digits are written positionally,
how an exponent is written, and the words for the values that are not finite. `FloatStyle.write`
applies them; `FloatStyle.standard` is the style of every number this library prints.
-/

namespace StatementClient.Decimal

/-- The choices of a float printer beyond its digits. -/
structure FloatStyle where
  /-- Positional notation when the point position `p` (value `0.d₁d₂… · 10^p`) lies in
  `[lowestPoint, highestPoint]`. -/
  lowestPoint : Int
  highestPoint : Int
  /-- Minimum number of exponent digits, zero-padded. -/
  exponentDigits : Nat
  /-- Text of a NaN, and of positive infinity (negative infinity is a minus before it). -/
  nan : String
  infinity : String

/-- Positional from `1e-4` up to below `1e16`, `e+16` and `e-05` beyond, `nan` and `inf`. -/
def FloatStyle.standard : FloatStyle :=
  { lowestPoint := -3, highestPoint := 16, exponentDigits := 2, nan := "nan", infinity := "inf" }

/-- The same positions and exponents, with `NaN` and `Infinity` for the values that are not
finite, as documents write them. -/
def FloatStyle.document : FloatStyle :=
  { FloatStyle.standard with nan := "NaN", infinity := "Infinity" }

/-- `n` zeros. -/
def zeros (n : Nat) : String :=
  String.ofList (List.replicate n '0')

/-- Decimal digits of a number, left-padded with zeros to `width`. -/
def padded (width n : Nat) : String :=
  let s := toString n
  zeros (width - s.length) ++ s

/-- The text of a magnitude with shortest digits `d`. -/
def FloatStyle.magnitude (st : FloatStyle) (d : Digits) : String :=
  let ds := toString d.digits
  let n := ds.length
  let p := d.pointPosition
  if st.lowestPoint ≤ p ∧ p ≤ st.highestPoint then
    if p ≤ 0 then "0." ++ zeros (-p).toNat ++ ds
    else if p.toNat < n then
      String.ofList (ds.toList.take p.toNat) ++ "." ++ String.ofList (ds.toList.drop p.toNat)
    else ds ++ zeros (p.toNat - n) ++ ".0"
  else
    let e := p - 1
    let mant :=
      if n = 1 then ds
      else String.ofList (ds.toList.take 1) ++ "." ++ String.ofList (ds.toList.drop 1)
    mant ++ "e" ++ (if e < 0 then "-" else "+") ++ padded st.exponentDigits e.natAbs

/-- The text of a double in style `st`. -/
def FloatStyle.write (st : FloatStyle) (x : Float) : String :=
  if x.isNaN then st.nan
  else
    let sign := if (Binary.ofFloat x).negative then "-" else ""
    if x.isInf then sign ++ st.infinity
    else sign ++ st.magnitude (shortestOf x)

end StatementClient.Decimal
