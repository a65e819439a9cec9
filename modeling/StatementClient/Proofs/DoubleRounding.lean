import Mathlib
import StatementClient.Proofs.NearestDouble

/-!
# Rounding to the nearest double

The floating-point model rounds the exact result of an operation to the nearest point of the grid
of doubles, `n · 2^f` with `|n| ≤ 2^53` and `f ≥ -1074` (`OnGrid`), a tie going to the even
significand, and turns a result past `2^1024` into an infinity. `roundDouble` is that rounding with
the exponent left unbounded above: it scales a value by its grid exponent (`Scaled`) and rounds the
quotient half to even.

The rounded value is a nearest grid point (`roundDouble_nearest`). Two facts follow from nearness
alone, with no case split over binades: rounding is monotone (`roundDouble_mono`), since a value
whose rounding lay above the rounding of a larger value would sit at the midpoint of the two
roundings, and so would the larger one; and it fixes the grid (`roundDouble_of_onGrid`).
-/

namespace StatementClient.Decimal

/-- `g` is the value of a double, the exponent unbounded above. -/
def OnGrid (g : ℚ) : Prop :=
  ∃ n : ℤ, ∃ f : ℤ, |n| ≤ 2 ^ 53 ∧ -1074 ≤ f ∧ g = n * 2 ^ f

theorem OnGrid.neg {g : ℚ} (h : OnGrid g) : OnGrid (-g) := by
  obtain ⟨n, f, hn, hf, rfl⟩ := h
  exact ⟨-n, f, by rwa [abs_neg], hf, by push_cast; ring⟩

/-! ## Half to even -/

theorem HalfEven.nearest {x : ℚ} {r : ℕ} (h : HalfEven x r) (n : ℤ) :
    |x - r| ≤ |x - n| := by
  rcases eq_or_ne ((r : ℤ) : ℚ) n with hn | hn
  · rw [← hn, Int.cast_natCast]
  · have hstep : (1 : ℚ) ≤ |(r : ℚ) - n| := by
      have hne : (r : ℤ) - n ≠ 0 := sub_ne_zero.2 fun h' => hn (by rw [h'])
      have h1 := Int.one_le_abs hne
      have hcast : ((|(r : ℤ) - n| : ℤ) : ℚ) = |(r : ℚ) - n| := by push_cast; rfl
      rw [← hcast]
      exact_mod_cast h1
    have htri : |(r : ℚ) - n| ≤ |x - r| + |x - n| := by
      calc |(r : ℚ) - n| = |(x - n) - (x - r)| := by ring_nf
        _ ≤ |x - n| + |x - r| := abs_sub _ _
        _ = |x - r| + |x - n| := add_comm _ _
    linarith [h.abs_sub_le]

theorem HalfEven.le_of_le {y : ℚ} {r n : ℕ} (h : HalfEven y r) (hy : y ≤ n) : r ≤ n := by
  have hr := (abs_le.1 h.abs_sub_le).1
  have hlt : (r : ℚ) < n + 1 := by linarith
  exact Nat.lt_succ_iff.1 (by exact_mod_cast hlt)

theorem HalfEven.ge_of_ge {y : ℚ} {r n : ℕ} (h : HalfEven y r) (hy : (n : ℚ) ≤ y) :
    n ≤ r := by
  have hr := (abs_le.1 h.abs_sub_le).2
  have hlt : (n : ℚ) < r + 1 := by linarith
  exact Nat.lt_succ_iff.1 (by exact_mod_cast hlt)

/-- A ratio `y ≥ 0` rounded half to even. -/
def roundHalfEvenQ (y : ℚ) : ℕ := roundHalfEven y.num.toNat y.den

theorem num_toNat_cast {y : ℚ} (hy : 0 ≤ y) : ((y.num.toNat : ℕ) : ℚ) = y.num := by
  have h : ((y.num.toNat : ℕ) : ℤ) = y.num := Int.toNat_of_nonneg (Rat.num_nonneg.2 hy)
  exact_mod_cast h

theorem roundHalfEvenQ_spec {y : ℚ} (hy : 0 ≤ y) : HalfEven y (roundHalfEvenQ y) := by
  have h := roundHalfEven_spec y.num.toNat y.den y.den_pos
  rwa [num_toNat_cast hy, Rat.num_div_den] at h

/-! ## The nearest grid point -/

/-- The grid exponent of `v > 0`: the exponent that scales it to a quotient of 53 bits, or the
subnormal exponent. -/
def gridExponent (v : ℚ) : ℤ := ratioExponent v.num.toNat v.den

theorem gridExponent_scaled {v : ℚ} (hv : 0 < v) : Scaled v (gridExponent v) := by
  have hnum : 0 < v.num.toNat := by
    have := Rat.num_pos.2 hv
    omega
  have h := ratioExponent_spec hnum v.den_pos
  rwa [num_toNat_cast hv.le, Rat.num_div_den] at h

/-- The grid point nearest to `v ≥ 0`: its quotient at the grid exponent, rounded half to even. -/
def nearestGrid (v : ℚ) : ℚ := roundHalfEvenQ (v / 2 ^ gridExponent v) * 2 ^ gridExponent v

/-- The double nearest to `v`, ties to the even significand, with the exponent unbounded above. -/
def roundDouble (v : ℚ) : ℚ := if v < 0 then -nearestGrid (-v) else nearestGrid v

theorem nearestGrid_zero : nearestGrid 0 = 0 := by
  have h : roundHalfEvenQ 0 = 0 := by decide
  simp [nearestGrid, h]

theorem roundDouble_zero : roundDouble 0 = 0 := by
  simp [roundDouble, nearestGrid_zero]

theorem nearestGrid_le_multiple {v : ℚ} (hv : 0 ≤ v) (n : ℤ) :
    |nearestGrid v - v| ≤ |n * 2 ^ gridExponent v - v| := by
  set t := gridExponent v
  have hp := two_zpow_pos t
  have hscale : ∀ a : ℚ, |a * 2 ^ t - v| = |v / 2 ^ t - a| * 2 ^ t := fun a => by
    rw [show a * 2 ^ t - v = -((v / 2 ^ t - a) * 2 ^ t) by field_simp; ring, abs_neg, abs_mul,
      abs_of_pos hp]
  rw [nearestGrid, hscale, hscale]
  exact mul_le_mul_of_nonneg_right ((roundHalfEvenQ_spec (div_nonneg hv hp.le)).nearest n) hp.le

/-- The rounding of `v ≥ 0` is a nearest grid point. -/
theorem nearestGrid_nearest {v g : ℚ} (hv : 0 ≤ v) (hg : OnGrid g) :
    |nearestGrid v - v| ≤ |g - v| := by
  rcases hv.eq_or_lt with rfl | hpos
  · rw [nearestGrid_zero, sub_zero, abs_zero]
    exact abs_nonneg _
  obtain ⟨n, f, hn, hf, rfl⟩ := hg
  have hs := gridExponent_scaled hpos
  set t := gridExponent v
  rcases le_or_gt t f with htf | hft
  · -- a grid point of exponent `f ≥ t` is a multiple of `2^t`
    have hmul : (n : ℚ) * 2 ^ f = ((n * 2 ^ (f - t).toNat : ℤ) : ℚ) * 2 ^ t := by
      push_cast
      rw [mul_assoc, ← zpow_natCast, ← zpow_add₀ two_ne_zero]
      congr 2
      omega
    rw [hmul]
    exact nearestGrid_le_multiple hv _
  · -- below the exponent `t` the grid holds only values under `2^52 · 2^t ≤ v`, which is nearer
    have hnormal : (2 : ℚ) ^ ((52 : ℕ) + t) ≤ v := by
      rcases hs.2.2 with hq | hsub
      · exact (le_floor_div_zpow_iff hv 52 t).1 hq
      · omega
    have hbelow : (n : ℚ) * 2 ^ f ≤ 2 ^ ((52 : ℕ) + t) := by
      have hn' : |(n : ℚ)| ≤ 2 ^ 53 := by exact_mod_cast hn
      calc (n : ℚ) * 2 ^ f ≤ |(n : ℚ)| * 2 ^ f :=
            mul_le_mul_of_nonneg_right (le_abs_self _) (two_zpow_pos f).le
        _ ≤ 2 ^ 53 * 2 ^ f := mul_le_mul_of_nonneg_right hn' (two_zpow_pos f).le
        _ = 2 ^ ((53 : ℕ) + f) := by rw [zpow_add₀ two_ne_zero, zpow_natCast]
        _ ≤ 2 ^ ((52 : ℕ) + t) := zpow_le_zpow_right₀ (by norm_num) (by omega)
    have hbound := nearestGrid_le_multiple hv (2 ^ 52)
    have hpow : ((2 ^ 52 : ℤ) : ℚ) * 2 ^ t = 2 ^ ((52 : ℕ) + t) := by
      rw [zpow_add₀ two_ne_zero, zpow_natCast]
      push_cast
      ring
    have hfar : |(2 : ℚ) ^ ((52 : ℕ) + t) - v| = v - 2 ^ ((52 : ℕ) + t) := by
      rw [abs_of_nonpos (by linarith)]
      ring
    have hfarther : |(n : ℚ) * 2 ^ f - v| = v - n * 2 ^ f := by
      rw [abs_of_nonpos (by linarith)]
      ring
    rw [hpow, hfar] at hbound
    rw [hfarther]
    linarith

theorem nearestGrid_onGrid {v : ℚ} (hv : 0 ≤ v) : OnGrid (nearestGrid v) := by
  rcases hv.eq_or_lt with rfl | hpos
  · exact ⟨0, 0, by norm_num, by norm_num, by rw [nearestGrid_zero]; simp⟩
  have hs := gridExponent_scaled hpos
  set t := gridExponent v
  have hp := two_zpow_pos t
  have hq : v / 2 ^ t < 2 ^ 53 := by
    have h := (floor_div_zpow_lt_iff hv 53 t).1 hs.2.1
    rw [zpow_add₀ two_ne_zero, zpow_natCast] at h
    rwa [div_lt_iff₀ hp]
  have hr := abs_le.1 (roundHalfEvenQ_spec (div_nonneg hv hp.le)).abs_sub_le
  have hr53 : roundHalfEvenQ (v / 2 ^ t) ≤ 2 ^ 53 := by
    have h : (roundHalfEvenQ (v / 2 ^ t) : ℚ) < 2 ^ 53 + 1 := by linarith [hr.1]
    exact Nat.lt_succ_iff.1 (by exact_mod_cast h)
  refine ⟨roundHalfEvenQ (v / 2 ^ t), t, ?_, hs.1, by simp [nearestGrid, t]⟩
  rw [Int.abs_natCast]
  exact_mod_cast hr53

/-! ## Signed rounding -/

/-- The rounding of any value is a nearest grid point. -/
theorem roundDouble_nearest (v : ℚ) {g : ℚ} (hg : OnGrid g) :
    |roundDouble v - v| ≤ |g - v| := by
  unfold roundDouble
  split_ifs with hneg
  · have h := nearestGrid_nearest (neg_nonneg.2 hneg.le) hg.neg
    rw [show -g - -v = -(g - v) by ring, abs_neg] at h
    rwa [show -nearestGrid (-v) - v = -(nearestGrid (-v) - -v) by ring, abs_neg]
  · exact nearestGrid_nearest (not_lt.1 hneg) hg

theorem roundDouble_onGrid (v : ℚ) : OnGrid (roundDouble v) := by
  unfold roundDouble
  split_ifs with hneg
  · exact (nearestGrid_onGrid (neg_nonneg.2 hneg.le)).neg
  · exact nearestGrid_onGrid (not_lt.1 hneg)

/-- A double rounds to itself. -/
theorem roundDouble_of_onGrid {g : ℚ} (hg : OnGrid g) : roundDouble g = g := by
  have h := roundDouble_nearest g hg
  rw [sub_self, abs_zero] at h
  exact sub_eq_zero.1 (abs_nonpos_iff.1 h)

/-- Rounding is monotone. -/
theorem roundDouble_mono : Monotone roundDouble := by
  intro x y hxy
  by_contra hlt
  rw [not_le] at hlt
  -- `x` is at least as near to its rounding as to `y`'s, and `y` the other way round: both lie on
  -- the midpoint of the two roundings
  have hx := roundDouble_nearest x (roundDouble_onGrid y)
  have hy := roundDouble_nearest y (roundDouble_onGrid x)
  have hmid₁ : roundDouble x + roundDouble y ≤ 2 * x := by
    rcases abs_cases (roundDouble x - x) with ⟨h₁, h₁'⟩ | ⟨h₁, h₁'⟩ <;>
      rcases abs_cases (roundDouble y - x) with ⟨h₂, h₂'⟩ | ⟨h₂, h₂'⟩ <;> linarith
  have hmid₂ : 2 * y ≤ roundDouble x + roundDouble y := by
    rcases abs_cases (roundDouble y - y) with ⟨h₁, h₁'⟩ | ⟨h₁, h₁'⟩ <;>
      rcases abs_cases (roundDouble x - y) with ⟨h₂, h₂'⟩ | ⟨h₂, h₂'⟩ <;> linarith
  have heq : x = y := by linarith
  subst heq
  exact lt_irrefl _ hlt

/-- At any scaling exponent, the nearest grid point to `v > 0` is its quotient rounded half to
even. -/
theorem nearestGrid_eq {v : ℚ} (hv : 0 < v) {t : ℤ} (ht : Scaled v t) {r : ℕ}
    (hr : HalfEven (v / 2 ^ t) r) : nearestGrid v = r * 2 ^ t := by
  have hte : gridExponent v = t := Scaled.unique hv.le (gridExponent_scaled hv) ht
  unfold nearestGrid
  rw [hte, HalfEven.unique (roundHalfEvenQ_spec (div_nonneg hv.le (two_zpow_pos t).le)) hr]

end StatementClient.Decimal
