import Mathlib
import StatementClient.Proofs.NearestDouble

/-!
# The shortest digits read back

`Binary.shortest` looks for the coarsest decimal grid `10^s` with a point in the rounding
interval of a double (`Binary.RoundsTo`), starting one digit below the double's decimal exponent
and refining one digit at a time. Whatever it returns lies in that interval. On each grid it
returns only points `within` accepts, and `within` is exactly the interval
(`within_iff_roundsTo`). When no grid of up to sixteen digits has a point, it returns the nearer
of the two seventeen-digit points around the double, and that grid is finer than the distance
from the double to either end of its interval (`nearer_roundsTo`). The exact comparisons are read
as comparisons of rationals (`compareScaled_lt`, `floorScaled_eq`), and the decimal exponent,
estimated from the bit length, never lies above the value (`decimalExponent_le`).

With `nearest_eq_of_roundsTo` the digits of a finite nonzero double read back as the double
(`nearest_shortestOf`).
-/

namespace StatementClient.Decimal

/-! ## Exact comparisons as rationals -/

theorem zpow_mul_pow_neg_toNat {x : ℚ} (hx : x ≠ 0) (p : ℤ) :
    x ^ p * x ^ (-p).toNat = x ^ p.toNat := by
  rw [← zpow_natCast, ← zpow_natCast, ← zpow_add₀ hx]
  congr 1
  omega

theorem compareScaled_sides (a : ℕ) (p : ℤ) (b : ℕ) (s : ℤ) :
    ((a * Nat.pow 2 p.toNat * Nat.pow 10 (-s).toNat : ℕ) : ℚ) =
        a * 2 ^ p * (2 ^ (-p).toNat * 10 ^ (-s).toNat) ∧
      ((b * Nat.pow 10 s.toNat * Nat.pow 2 (-p).toNat : ℕ) : ℚ) =
        b * 10 ^ s * (2 ^ (-p).toNat * 10 ^ (-s).toNat) := by
  simp only [Nat.pow_eq]
  push_cast
  rw [← zpow_mul_pow_neg_toNat two_ne_zero p, ← zpow_mul_pow_neg_toNat (by norm_num : (10 : ℚ) ≠ 0) s]
  constructor <;> ring

section Compare

variable (a : ℕ) (p : ℤ) (b : ℕ) (s : ℤ)

theorem compareScaled_lt : compareScaled a p b s = .lt ↔ (a : ℚ) * 2 ^ p < b * 10 ^ s := by
  obtain ⟨hl, hr⟩ := compareScaled_sides a p b s
  unfold compareScaled
  dsimp only
  rw [compare_lt_iff_lt, ← Nat.cast_lt (α := ℚ), hl, hr]
  exact mul_lt_mul_iff_left₀ (by positivity)

theorem compareScaled_eq_eq : compareScaled a p b s = .eq ↔ (a : ℚ) * 2 ^ p = b * 10 ^ s := by
  obtain ⟨hl, hr⟩ := compareScaled_sides a p b s
  unfold compareScaled
  dsimp only
  rw [compare_eq_iff_eq, ← Nat.cast_inj (R := ℚ), hl, hr]
  exact mul_left_inj' (by positivity)

theorem compareScaled_gt : compareScaled a p b s = .gt ↔ (b : ℚ) * 10 ^ s < a * 2 ^ p := by
  obtain ⟨hl, hr⟩ := compareScaled_sides a p b s
  unfold compareScaled
  dsimp only
  rw [compare_gt_iff_gt, ← Nat.cast_lt (α := ℚ), hl, hr]
  exact mul_lt_mul_iff_left₀ (by positivity)

end Compare

theorem floorScaled_eq (a : ℕ) (p s : ℤ) :
    floorScaled a p s = ⌊(a : ℚ) * 2 ^ p / 10 ^ s⌋₊ := by
  unfold floorScaled
  rw [← Nat.floor_div_eq_div (K := ℚ)]
  congr 1
  simp only [Nat.pow_eq]
  push_cast
  rw [← zpow_mul_pow_neg_toNat two_ne_zero p, ← zpow_mul_pow_neg_toNat (by norm_num : (10 : ℚ) ≠ 0) s]
  field_simp

theorem within_iff (lo hi : ℕ) (u : ℤ) (closed : Bool) (c : ℕ) (s : ℤ) :
    within lo hi u closed c s = true ↔
      ((lo : ℚ) * 2 ^ u < c * 10 ^ s ∨ closed = true ∧ (lo : ℚ) * 2 ^ u = c * 10 ^ s) ∧
        ((c : ℚ) * 10 ^ s < hi * 2 ^ u ∨ closed = true ∧ (hi : ℚ) * 2 ^ u = c * 10 ^ s) := by
  unfold within
  simp only [Bool.and_eq_true, Bool.or_eq_true, beq_iff_eq, compareScaled_lt, compareScaled_eq_eq,
    compareScaled_gt]

/-! ## The interval on the quarter grid -/

namespace Binary

variable {b : Binary}

theorem lower_eq_quarters (hm : 0 < b.mantissa) :
    ((if b.narrowBelow = true then 4 * b.mantissa - 1 else 4 * b.mantissa - 2 : ℕ) : ℚ) *
      2 ^ (b.exponent - 2) = b.lower := by
  unfold lower halfGapBelow
  rw [zpow_sub₀ two_ne_zero]
  split
  · rw [Nat.cast_sub (by omega)]
    push_cast
    ring
  · rw [Nat.cast_sub (by omega)]
    push_cast
    ring

theorem upper_eq_quarters : ((4 * b.mantissa + 2 : ℕ) : ℚ) * 2 ^ (b.exponent - 2) = b.upper := by
  unfold upper
  rw [zpow_sub₀ two_ne_zero]
  push_cast
  ring

theorem RoundsTo.of_strict {y : ℚ} (h₁ : b.lower < y) (h₂ : y < b.upper) : b.RoundsTo y := by
  unfold RoundsTo
  split
  · exact ⟨h₁.le, h₂.le⟩
  · exact ⟨h₁, h₂⟩

theorem mantissa_lt_gap (hb : b.Finite) : (b.mantissa : ℚ) < 2 * b.halfGapBelow * 10 ^ 16 := by
  unfold halfGapBelow
  split
  · rename_i hn
    rw [(hb.narrow.1 hn).1]
    norm_num
  · have : (b.mantissa : ℚ) < 2 ^ 53 := by exact_mod_cast hb.mantissa_lt
    linarith

end Binary

theorem within_iff_roundsTo {b : Binary} (hm : 0 < b.mantissa) (c : ℕ) (s : ℤ) :
    within (if b.narrowBelow = true then 4 * b.mantissa - 1 else 4 * b.mantissa - 2)
        (4 * b.mantissa + 2) (b.exponent - 2) (decide (b.mantissa % 2 = 0)) c s = true ↔
      b.RoundsTo (c * 10 ^ s) := by
  rw [within_iff, Binary.lower_eq_quarters hm, Binary.upper_eq_quarters]
  unfold Binary.RoundsTo
  by_cases he : b.mantissa % 2 = 0
  · simp only [he, decide_true, true_and, ↓reduceIte]
    rw [le_iff_lt_or_eq, le_iff_lt_or_eq, eq_comm (a := (c : ℚ) * 10 ^ s)]
  · simp [he]

/-! ## Digits -/

/-- The value `digits · 10^scale` of a decimal. -/
def Digits.value (d : Digits) : ℚ := d.digits * 10 ^ d.scale

theorem Digits.trim_go_value : ∀ (fuel c : ℕ) (s : ℤ), (Digits.trim.go fuel c s).value = c * 10 ^ s
  | 0, _, _ => rfl
  | fuel + 1, c, s => by
    unfold Digits.trim.go
    split_ifs with h
    · rw [Digits.trim_go_value]
      obtain ⟨q, rfl⟩ : 10 ∣ c := Nat.dvd_of_mod_eq_zero h.2
      rw [Nat.mul_div_cancel_left q (by norm_num), zpow_add_one₀ (by norm_num)]
      push_cast
      ring
    · rfl

@[simp]
theorem Digits.trim_value (d : Digits) : d.trim.value = d.value :=
  Digits.trim_go_value _ _ _

/-! ## The candidates on one grid -/

theorem nearer_eq_or (v : ℕ) (u : ℤ) (c : ℕ) (s : ℤ) : nearer v u c s = c ∨ nearer v u c s = c + 1 := by
  unfold nearer
  split
  · exact .inl rfl
  · exact .inr rfl
  · split
    · exact .inl rfl
    · exact .inr rfl

/-- Of the two grid points around the value, `nearer` is within half a step of it. -/
theorem nearer_near (v : ℕ) (u s : ℤ) :
    (v : ℚ) * 2 ^ u - 10 ^ s / 2 ≤ nearer v u (floorScaled v u s) s * 10 ^ s ∧
      (nearer v u (floorScaled v u s) s : ℚ) * 10 ^ s ≤ v * 2 ^ u + 10 ^ s / 2 := by
  set c := floorScaled v u s with hc
  have hg := ten_zpow_pos s
  have hX : 0 ≤ (v : ℚ) * 2 ^ u := mul_nonneg (Nat.cast_nonneg v) (two_zpow_pos u).le
  have hc₁ : (c : ℚ) * 10 ^ s ≤ v * 2 ^ u := by
    rw [hc, floorScaled_eq, ← le_div_iff₀ hg]
    exact Nat.floor_le (div_nonneg hX hg.le)
  have hc₂ : (v : ℚ) * 2 ^ u < (c + 1) * 10 ^ s := by
    rw [hc, floorScaled_eq, ← div_lt_iff₀ hg]
    exact Nat.lt_floor_add_one _
  unfold nearer
  split
  · rename_i h
    rw [compareScaled_lt] at h
    push_cast at h
    constructor <;> linarith
  · rename_i h
    rw [compareScaled_gt] at h
    push_cast at h ⊢
    constructor <;> linarith
  · rename_i h
    rw [compareScaled_eq_eq] at h
    push_cast at h
    split <;> push_cast <;> constructor <;> linarith

/-! ## The decimal exponent -/

theorem ten_zpow_estimate_le (L : ℤ) (hL : L ≤ 200000) :
    (10 : ℚ) ^ (L * 30103 / 100000 - 2) ≤ 2 ^ L := by
  have h₁ : (10 : ℕ) ^ 30102 < 2 ^ 100000 := by decide +kernel
  have h₂ : (2 : ℕ) ^ 100000 < 10 ^ 30103 := by decide +kernel
  rcases le_or_gt 0 (L * 30103 / 100000 - 2) with hpos | hneg
  · -- a nonnegative estimate: compare the `100000`th powers
    obtain ⟨m, hm⟩ := Int.eq_ofNat_of_zero_le hpos
    obtain ⟨n, rfl⟩ : ∃ n : ℕ, L = n := ⟨L.toNat, by omega⟩
    have hnat : 10 ^ m ≤ 2 ^ n := by
      apply (Nat.pow_le_pow_iff_left (show 100000 ≠ 0 by norm_num)).1
      calc (10 ^ m) ^ 100000 = 10 ^ (m * 100000) := (pow_mul ..).symm
        _ ≤ 10 ^ (30102 * n) := Nat.pow_le_pow_right (by norm_num) (by omega)
        _ = (10 ^ 30102) ^ n := pow_mul ..
        _ ≤ (2 ^ 100000) ^ n := Nat.pow_le_pow_left h₁.le n
        _ = (2 ^ n) ^ 100000 := pow_right_comm ..
    rw [hm, zpow_natCast, zpow_natCast]
    exact_mod_cast hnat
  · rcases le_or_gt 0 L with hL₀ | hL₀
    · -- a negative estimate of a nonnegative length is below one
      exact (zpow_le_one_of_nonpos₀ (by norm_num) hneg.le).trans (one_le_zpow₀ (by norm_num) hL₀)
    · -- a negative length: compare the reciprocals' `100000`th powers
      obtain ⟨m, hm⟩ : ∃ m : ℕ, L * 30103 / 100000 - 2 = -(m : ℤ) :=
        ⟨(-(L * 30103 / 100000 - 2)).toNat, by omega⟩
      obtain ⟨n, hn⟩ : ∃ n : ℕ, L = -(n : ℤ) := ⟨(-L).toNat, by omega⟩
      have hnat : 2 ^ n ≤ 10 ^ m := by
        apply (Nat.pow_le_pow_iff_left (show 100000 ≠ 0 by norm_num)).1
        calc (2 ^ n) ^ 100000 = (2 ^ 100000) ^ n := pow_right_comm ..
          _ ≤ (10 ^ 30103) ^ n := Nat.pow_le_pow_left h₂.le n
          _ = 10 ^ (30103 * n) := (pow_mul ..).symm
          _ ≤ 10 ^ (m * 100000) := Nat.pow_le_pow_right (by norm_num) (by omega)
          _ = (10 ^ m) ^ 100000 := pow_mul ..
      rw [hm, hn, zpow_neg, zpow_neg, zpow_natCast, zpow_natCast]
      exact inv_anti₀ (by positivity) (by exact_mod_cast hnat)

theorem foldl_best_le (a : ℕ) (p : ℤ) : ∀ (ks : List ℤ) (best : ℤ), (10 : ℚ) ^ best ≤ a * 2 ^ p →
    (10 : ℚ) ^ ks.foldl (fun best k => if (compareScaled a p 1 k != .lt) = true then k else best) best ≤
      a * 2 ^ p
  | [], _, h => h
  | k :: ks, best, h => by
    rw [List.foldl_cons]
    apply foldl_best_le a p ks
    split_ifs with hk
    · have hk' : ¬ compareScaled a p 1 k = .lt := by simpa using hk
      rw [compareScaled_lt] at hk'
      simpa using hk'
    · exact h

theorem decimalExponent_le {a : ℕ} (ha : 0 < a) {p : ℤ} (hL : (Nat.log2 a : ℤ) + p ≤ 200000) :
    (10 : ℚ) ^ decimalExponent a p ≤ a * 2 ^ p := by
  unfold decimalExponent
  dsimp only
  apply foldl_best_le
  calc (10 : ℚ) ^ (((Nat.log2 a : ℤ) + p) * 30103 / 100000 - 2) ≤ 2 ^ ((Nat.log2 a : ℤ) + p) :=
        ten_zpow_estimate_le _ hL
    _ = 2 ^ Nat.log2 a * 2 ^ p := by rw [zpow_add₀ two_ne_zero, zpow_natCast]
    _ ≤ a * 2 ^ p := mul_le_mul_of_nonneg_right (by exact_mod_cast Nat.log2_self_le ha.ne')
        (two_zpow_pos p).le

/-! ## The search -/

section Search

variable {b : Binary}

/-- On the seventeen-digit grid below the decimal exponent, the nearer grid point is strictly
inside the interval. -/
theorem nearer_roundsTo (hb : b.Finite) {k : ℤ} (hk : (10 : ℚ) ^ k ≤ b.mantissa * 2 ^ b.exponent) :
    b.RoundsTo (Digits.value ⟨nearer (4 * b.mantissa) (b.exponent - 2)
      (floorScaled (4 * b.mantissa) (b.exponent - 2) (k - 17 + 1)) (k - 17 + 1), k - 17 + 1⟩) := by
  set s : ℤ := k - 17 + 1
  set X : ℚ := b.mantissa * 2 ^ b.exponent with hXdef
  have hX : ((4 * b.mantissa : ℕ) : ℚ) * 2 ^ (b.exponent - 2) = X := by
    rw [zpow_sub₀ two_ne_zero]
    push_cast
    ring
  obtain ⟨hnear₁, hnear₂⟩ := nearer_near (4 * b.mantissa) (b.exponent - 2) s
  rw [hX] at hnear₁ hnear₂
  have hstep : (10 : ℚ) ^ s * 10 ^ 16 ≤ X := by
    rw [← zpow_natCast, ← zpow_add₀ (by norm_num)]
    convert hk using 2
    push_cast
    ring
  have hp := two_zpow_pos b.exponent
  have hgap : (10 : ℚ) ^ s < 2 * b.halfGapBelow * 2 ^ b.exponent := by
    have h := mul_lt_mul_of_pos_right (Binary.mantissa_lt_gap hb) hp
    have : (10 : ℚ) ^ s * 10 ^ 16 < 2 * b.halfGapBelow * 2 ^ b.exponent * 10 ^ 16 := by
      linarith
    exact lt_of_mul_lt_mul_right this (by positivity)
  have hhalf := b.halfGapBelow_le
  have hlower : b.lower = X - b.halfGapBelow * 2 ^ b.exponent := by
    unfold Binary.lower
    ring
  have hupper : b.upper = X + 1 / 2 * 2 ^ b.exponent := by
    unfold Binary.upper
    ring
  apply Binary.RoundsTo.of_strict
  · rw [hlower]
    unfold Digits.value
    linarith
  · have : b.halfGapBelow * 2 ^ b.exponent ≤ 1 / 2 * 2 ^ b.exponent :=
      mul_le_mul_of_nonneg_right hhalf hp.le
    rw [hupper]
    unfold Digits.value
    linarith

/-- Every digit string the search returns lies in the interval: a grid point `within` accepted,
or the nearer point of the last grid. -/
theorem search_roundsTo {u k : ℤ} {v lo hi : ℕ}
    (hwithin : ∀ (c : ℕ) (s : ℤ),
      within lo hi u (decide (b.mantissa % 2 = 0)) c s = true ↔ b.RoundsTo (c * 10 ^ s))
    (hlast : b.RoundsTo (Digits.value
      ⟨nearer v u (floorScaled v u (k - 17 + 1)) (k - 17 + 1), k - 17 + 1⟩)) :
    ∀ left count, count + left = 17 →
      b.RoundsTo (Binary.shortest.search b u v lo hi k count left).value
  | 0, count, h => by
    obtain rfl : count = 17 := by omega
    unfold Binary.shortest.search
    dsimp only
    rw [Digits.trim_value]
    simpa using hlast
  | left + 1, count, h => by
    unfold Binary.shortest.search
    dsimp only
    set s : ℤ := k - count + 1
    set c := floorScaled v u s
    split_ifs with hboth hlow hhigh
    · rw [Bool.and_eq_true] at hboth
      rw [Digits.trim_value]
      unfold Digits.value
      rcases nearer_eq_or v u c s with hn | hn <;> rw [hn]
      · exact (hwithin c s).1 hboth.1
      · exact (hwithin (c + 1) s).1 hboth.2
    · rw [Digits.trim_value]
      exact (hwithin c s).1 hlow
    · rw [Digits.trim_value]
      exact (hwithin (c + 1) s).1 hhigh
    · exact search_roundsTo hwithin hlast left (count + 1) (by omega)

/-- The shortest digits of a finite nonzero double lie in its interval. -/
theorem shortest_roundsTo (hb : b.Finite) (hm : 0 < b.mantissa) : b.RoundsTo b.shortest.value := by
  -- the value has at most `55 + 969` bits above the unit, well within the estimate's range
  have hlog : Nat.log2 (4 * b.mantissa) < 55 := by
    rw [Nat.log2_lt (by omega)]
    have := hb.mantissa_lt
    omega
  have hL : (Nat.log2 (4 * b.mantissa) : ℤ) + (b.exponent - 2) ≤ 200000 := by
    have := hb.exponent_le
    omega
  have hk := decimalExponent_le (by omega) hL
  have hX : ((4 * b.mantissa : ℕ) : ℚ) * 2 ^ (b.exponent - 2) = b.mantissa * 2 ^ b.exponent := by
    rw [zpow_sub₀ two_ne_zero]
    push_cast
    ring
  rw [hX] at hk
  unfold Binary.shortest
  dsimp only
  exact search_roundsTo (within_iff_roundsTo hm) (nearer_roundsTo hb hk) 16 1 rfl

end Search

section Float

variable {x : Float} (hnan : x.isNaN = false) (hinf : x.isInf = false)
  (hm : (Binary.ofFloat x).mantissa ≠ 0)
include hnan hinf hm

theorem shortestOf_roundsTo : (Binary.ofFloat x).RoundsTo (shortestOf x).value := by
  unfold shortestOf
  dsimp only
  rw [if_neg hm]
  exact shortest_roundsTo (Binary.ofFloat_finite hnan hinf) (Nat.pos_of_ne_zero hm)

/-- **Shortest digits read back.** The digits printed for a finite nonzero double, read with its
sign, give the double. -/
theorem nearest_shortestOf :
    nearest (Binary.ofFloat x).negative (shortestOf x).digits (shortestOf x).scale = x := by
  rw [nearest_eq_of_roundsTo (Binary.ofFloat_finite hnan hinf) (Nat.pos_of_ne_zero hm)
    (shortestOf_roundsTo hnan hinf hm)]
  exact (Float.eq_assemble x).symm

end Float

end StatementClient.Decimal
