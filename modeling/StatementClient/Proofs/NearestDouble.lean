import Mathlib
import StatementClient.Proofs.DoubleFields

/-!
# The double nearest to a ratio

A finite double `m · 2^e` is what every rational of its rounding interval reads back as: from
the midpoint to the double below (a quarter step below at the bottom of a binade, where the gap
below is half as wide) to the midpoint to the double above, both ends included exactly when `m`
is even (`Binary.RoundsTo`). `nearestRatio` picks a binary exponent from the bit lengths of
numerator and denominator (`ratioExponent`), one that leaves a quotient of 53 bits or the
subnormal exponent, then rounds the scaled ratio half to even. Both choices are determined by
the ratio alone (`ratioExponent_spec`, `Scaled.unique`, `HalfEven.unique`), so for a ratio in the
interval of a double they are that double's exponent and significand (`RoundsTo.at_exponent`), or,
just below the bottom of a binade, the exponent one lower and a rounding up to `2^53` that carries
back (`RoundsTo.below_binade`). The double assembled is the double itself
(`nearestRatio_eq_of_roundsTo`, `nearest_eq_of_roundsTo`).

All reasoning is in `ℚ`; no power of two or ten beyond the format's constants is evaluated.
-/

namespace StatementClient.Decimal

/-! ## Rounding half to even -/

/-- `r` is a nearest integer to `x`, the even one on a tie. -/
def HalfEven (x : ℚ) (r : ℕ) : Prop :=
  |x - r| < 1 / 2 ∨ (|x - r| = 1 / 2 ∧ r % 2 = 0)

theorem HalfEven.abs_sub_le {x : ℚ} {r : ℕ} (h : HalfEven x r) : |x - r| ≤ 1 / 2 := by
  rcases h with h | ⟨h, -⟩
  · exact h.le
  · exact h.le

theorem HalfEven.even_of_tie {x : ℚ} {r : ℕ} (h : HalfEven x r) (htie : |x - r| = 1 / 2) :
    r % 2 = 0 := by
  rcases h with h | ⟨-, h⟩
  · exact absurd htie h.ne
  · exact h

theorem HalfEven.unique {x : ℚ} {r₁ r₂ : ℕ} (h₁ : HalfEven x r₁) (h₂ : HalfEven x r₂) :
    r₁ = r₂ := by
  wlog hlt : r₁ < r₂ generalizing r₁ r₂
  · rcases Nat.lt_or_ge r₂ r₁ with hgt | hge
    · exact (this h₂ h₁ hgt).symm
    · omega
  -- two integers within a half of `x` are one apart, both at a tie, so not both even
  have hstep : (r₁ : ℚ) + 1 ≤ r₂ := by exact_mod_cast hlt
  obtain ⟨-, hx₁⟩ := abs_le.1 h₁.abs_sub_le
  obtain ⟨hx₂, -⟩ := abs_le.1 h₂.abs_sub_le
  have htie₁ : |x - r₁| = 1 / 2 := by rw [abs_of_nonneg (by linarith)]; linarith
  have htie₂ : |x - r₂| = 1 / 2 := by rw [abs_of_nonpos (by linarith)]; linarith
  have hnext : r₂ = r₁ + 1 := by
    have : (r₂ : ℚ) = r₁ + 1 := by linarith
    exact_mod_cast this
  have heven₁ := h₁.even_of_tie htie₁
  have heven₂ := h₂.even_of_tie htie₂
  omega

theorem div_lt_half_iff {c den : ℕ} (hden : 0 < den) : (c : ℚ) / den < 1 / 2 ↔ 2 * c < den := by
  rw [div_lt_div_iff₀ (by exact_mod_cast hden) (by norm_num)]
  norm_cast
  omega

theorem half_lt_div_iff {c den : ℕ} (hden : 0 < den) : 1 / 2 < (c : ℚ) / den ↔ den < 2 * c := by
  rw [div_lt_div_iff₀ (by norm_num) (by exact_mod_cast hden)]
  norm_cast
  omega

theorem div_eq_half_iff {c den : ℕ} (hden : 0 < den) : (c : ℚ) / den = 1 / 2 ↔ 2 * c = den := by
  rw [div_eq_div_iff (by exact_mod_cast hden.ne') (by norm_num)]
  norm_cast
  omega

/-- `roundHalfEven` rounds `num / den` half to even. -/
theorem roundHalfEven_spec (num den : ℕ) (hden : 0 < den) :
    HalfEven ((num : ℚ) / den) (roundHalfEven num den) := by
  have hd : (0 : ℚ) < den := by exact_mod_cast hden
  have hsplit : (num : ℚ) / den = (num / den : ℕ) + ((num % den : ℕ) : ℚ) / den := by
    have h : (num : ℚ) = den * (num / den : ℕ) + (num % den : ℕ) := by
      exact_mod_cast (Nat.div_add_mod num den).symm
    rw [h]
    field_simp
  have hrem : num % den < den := Nat.mod_lt _ hden
  have hf0 : (0 : ℚ) ≤ ((num % den : ℕ) : ℚ) / den := by positivity
  have hf1 : ((num % den : ℕ) : ℚ) / den < 1 := by
    rw [div_lt_one hd]
    exact_mod_cast hrem
  unfold roundHalfEven HalfEven
  dsimp only
  rw [hsplit]
  generalize num / den = q
  generalize num % den = r at hrem hf0 hf1
  split_ifs with hup htie
  · -- above the middle: up
    left
    have hgt := (half_lt_div_iff hden).2 hup
    rw [abs_lt]
    push_cast
    constructor <;> linarith
  · -- on the middle with an odd floor: up to the even neighbour
    right
    have hm := (div_eq_half_iff hden).2 htie.1
    push_cast
    refine ⟨?_, by omega⟩
    rw [show (q : ℚ) + r / den - (q + 1) = -(1 / 2) by linarith, abs_neg, abs_of_pos (by norm_num)]
  · -- below the middle, or on it with an even floor: down
    rw [show (q : ℚ) + r / den - q = r / den by ring, abs_of_nonneg hf0]
    rcases Nat.lt_or_eq_of_le (show 2 * r ≤ den by omega) with hlt | htie'
    · exact .inl ((div_lt_half_iff hden).2 hlt)
    · exact .inr ⟨(div_eq_half_iff hden).2 htie', by omega⟩

/-! ## The binary exponent -/

/-- `e` scales the ratio `v` to a quotient of 53 bits, or is the subnormal exponent and leaves a
shorter one. -/
def Scaled (v : ℚ) (e : ℤ) : Prop :=
  -1074 ≤ e ∧ ⌊v / 2 ^ e⌋₊ < 2 ^ 53 ∧ (2 ^ 52 ≤ ⌊v / 2 ^ e⌋₊ ∨ e = -1074)

theorem two_zpow_pos (e : ℤ) : (0 : ℚ) < 2 ^ e := zpow_pos (by norm_num) e

theorem floor_div_zpow_lt_iff {v : ℚ} (hv : 0 ≤ v) (n : ℕ) (e : ℤ) :
    ⌊v / 2 ^ e⌋₊ < 2 ^ n ↔ v < 2 ^ ((n : ℤ) + e) := by
  rw [Nat.floor_lt (div_nonneg hv (two_zpow_pos e).le)]
  push_cast
  rw [div_lt_iff₀ (two_zpow_pos e), ← zpow_natCast, ← zpow_add₀ (by norm_num)]

theorem le_floor_div_zpow_iff {v : ℚ} (hv : 0 ≤ v) (n : ℕ) (e : ℤ) :
    2 ^ n ≤ ⌊v / 2 ^ e⌋₊ ↔ 2 ^ ((n : ℤ) + e) ≤ v := by
  rw [← not_lt, floor_div_zpow_lt_iff hv, not_lt]

/-- A ratio has at most one scaling exponent. -/
theorem Scaled.unique {v : ℚ} (hv : 0 ≤ v) {e₁ e₂ : ℤ} (h₁ : Scaled v e₁) (h₂ : Scaled v e₂) :
    e₁ = e₂ := by
  have key : ∀ {a b : ℤ}, Scaled v a → Scaled v b → ¬ a < b := by
    intro a b ha hb hab
    rcases hb.2.2 with hq | hsub
    · have hbelow := (floor_div_zpow_lt_iff hv 53 a).1 ha.2.1
      have habove := (le_floor_div_zpow_iff hv 52 b).1 hq
      have hpow : (2 : ℚ) ^ ((53 : ℕ) + a) ≤ 2 ^ ((52 : ℕ) + b) :=
        zpow_le_zpow_right₀ (by norm_num) (by omega)
      linarith
    · have := ha.1
      omega
  rcases lt_trichotomy e₁ e₂ with h | h | h
  · exact absurd h (key h₁ h₂)
  · exact h
  · exact absurd h (key h₂ h₁)

theorem scaled_ratio (num den : ℕ) (e : ℤ) :
    ((num * Nat.pow 2 (-e).toNat : ℕ) : ℚ) / (den * Nat.pow 2 e.toNat : ℕ) =
      (num : ℚ) / den / 2 ^ e := by
  simp only [Nat.pow_eq]
  push_cast
  have hsplit : (2 : ℚ) ^ e = 2 ^ e.toNat / 2 ^ (-e).toNat := by
    rw [← zpow_natCast, ← zpow_natCast, ← zpow_sub₀ (by norm_num)]
    congr 1
    omega
  rw [hsplit]
  field_simp

theorem quotient_eq_floor (num den : ℕ) (e : ℤ) :
    num * Nat.pow 2 (-e).toNat / (den * Nat.pow 2 e.toNat) = ⌊(num : ℚ) / den / 2 ^ e⌋₊ := by
  rw [← Nat.floor_div_eq_div (K := ℚ), scaled_ratio]

/-- The binary exponent `nearestRatio` scales by: from the bit lengths, one more when the
quotient has 54 bits. -/
def ratioExponent (num den : ℕ) : ℤ :=
  let t : ℤ := (Nat.log2 num : ℤ) - (Nat.log2 den : ℤ)
  let e₀ : ℤ := max (t - 53) (-1074)
  if (num * Nat.pow 2 (-e₀).toNat) / (den * Nat.pow 2 e₀.toNat) ≥ Nat.pow 2 53 then e₀ + 1 else e₀

theorem nearestRatio_eq (negative : Bool) (num den : ℕ) :
    nearestRatio negative num den =
      let e := ratioExponent num den
      let m := roundHalfEven (num * Nat.pow 2 (-e).toNat) (den * Nat.pow 2 e.toNat)
      let (m, e) := if m = Nat.pow 2 53 then (Nat.pow 2 52, e + 1) else (m, e)
      if m < Nat.pow 2 52 then assemble negative 0 m
      else
        let biased := e + 1075
        if biased ≥ 2047 then infinity negative
        else assemble negative biased.toNat (m - Nat.pow 2 52) := rfl

theorem ratio_log2_bounds {num den : ℕ} (hnum : 0 < num) (hden : 0 < den) :
    (2 : ℚ) ^ ((num.log2 : ℤ) - den.log2 - 1) < (num : ℚ) / den ∧
      (num : ℚ) / den < 2 ^ ((num.log2 : ℤ) - den.log2 + 1) := by
  have hnum₁ : ((2 ^ num.log2 : ℕ) : ℚ) ≤ num := by exact_mod_cast Nat.log2_self_le hnum.ne'
  have hnum₂ : (num : ℚ) < ((2 ^ (num.log2 + 1) : ℕ) : ℚ) := by exact_mod_cast Nat.lt_log2_self
  have hden₁ : ((2 ^ den.log2 : ℕ) : ℚ) ≤ den := by exact_mod_cast Nat.log2_self_le hden.ne'
  have hden₂ : (den : ℚ) < ((2 ^ (den.log2 + 1) : ℕ) : ℚ) := by exact_mod_cast Nat.lt_log2_self
  have hd : (0 : ℚ) < den := by exact_mod_cast hden
  push_cast at hnum₁ hnum₂ hden₁ hden₂
  constructor
  · rw [lt_div_iff₀ hd]
    calc (2 : ℚ) ^ ((num.log2 : ℤ) - den.log2 - 1) * den
        < 2 ^ ((num.log2 : ℤ) - den.log2 - 1) * 2 ^ (den.log2 + 1) :=
          mul_lt_mul_of_pos_left hden₂ (two_zpow_pos _)
      _ = 2 ^ num.log2 := by
          rw [← zpow_natCast, ← zpow_natCast, ← zpow_add₀ (by norm_num)]
          congr 1
          push_cast
          ring
      _ ≤ num := hnum₁
  · rw [div_lt_iff₀ hd]
    calc (num : ℚ) < 2 ^ (num.log2 + 1) := hnum₂
      _ = 2 ^ ((num.log2 : ℤ) - den.log2 + 1) * 2 ^ den.log2 := by
          rw [← zpow_natCast, ← zpow_natCast, ← zpow_add₀ (by norm_num)]
          congr 1
          push_cast
          ring
      _ ≤ 2 ^ ((num.log2 : ℤ) - den.log2 + 1) * den :=
          mul_le_mul_of_nonneg_left hden₁ (two_zpow_pos _).le

/-- The exponent `nearestRatio` picks scales the ratio. -/
theorem ratioExponent_spec {num den : ℕ} (hnum : 0 < num) (hden : 0 < den) :
    Scaled ((num : ℚ) / den) (ratioExponent num den) := by
  obtain ⟨hlo, hhi⟩ := ratio_log2_bounds hnum hden
  set v : ℚ := (num : ℚ) / den with hv
  have hv0 : 0 ≤ v := by positivity
  set t : ℤ := (Nat.log2 num : ℤ) - (Nat.log2 den : ℤ) with ht
  unfold ratioExponent
  dsimp only
  rw [quotient_eq_floor]
  simp only [Nat.pow_eq]
  rw [← ht]
  rcases le_or_gt (-1074) (t - 53) with hA | hB
  · rw [max_eq_left hA]
    split_ifs with hq
    · have hw := (le_floor_div_zpow_iff hv0 53 _).1 hq
      refine ⟨by omega, (floor_div_zpow_lt_iff hv0 53 _).2 ?_,
        .inl ((le_floor_div_zpow_iff hv0 52 _).2 ?_)⟩
      · calc v < 2 ^ (t + 1) := hhi
          _ = 2 ^ ((53 : ℕ) + (t - 53 + 1)) := by congr 1; push_cast; ring
      · calc (2 : ℚ) ^ ((52 : ℕ) + (t - 53 + 1)) = 2 ^ ((53 : ℕ) + (t - 53)) := by
              congr 1; push_cast; ring
          _ ≤ v := hw
    · refine ⟨hA, Nat.lt_of_not_ge hq, .inl ((le_floor_div_zpow_iff hv0 52 _).2 ?_)⟩
      calc (2 : ℚ) ^ ((52 : ℕ) + (t - 53)) = 2 ^ (t - 1) := by congr 1; push_cast; ring
        _ ≤ v := hlo.le
  · rw [max_eq_right hB.le]
    have hlt : ⌊v / 2 ^ (-1074 : ℤ)⌋₊ < 2 ^ 53 := by
      apply (floor_div_zpow_lt_iff hv0 53 _).2
      calc v < 2 ^ (t + 1) := hhi
        _ ≤ 2 ^ ((53 : ℕ) + (-1074) : ℤ) := zpow_le_zpow_right₀ (by norm_num) (by omega)
    rw [if_neg (Nat.not_le.2 hlt)]
    exact ⟨le_rfl, hlt, .inr rfl⟩

/-! ## The rounding interval of a double -/

namespace Binary

/-- Half the gap to the double below: a quarter step at the bottom of a binade. -/
def halfGapBelow (b : Binary) : ℚ := if b.narrowBelow then 1 / 4 else 1 / 2

/-- The midpoint to the double below. -/
def lower (b : Binary) : ℚ := (b.mantissa - b.halfGapBelow) * 2 ^ b.exponent

/-- The midpoint to the double above. -/
def upper (b : Binary) : ℚ := (b.mantissa + 1 / 2) * 2 ^ b.exponent

/-- `v` reads back as the double: it lies between the midpoints to its neighbours, which count
when the significand is even, since a tie goes to the even significand. -/
def RoundsTo (b : Binary) (v : ℚ) : Prop :=
  if b.mantissa % 2 = 0 then b.lower ≤ v ∧ v ≤ b.upper else b.lower < v ∧ v < b.upper

theorem halfGapBelow_le (b : Binary) : b.halfGapBelow ≤ 1 / 2 := by
  unfold halfGapBelow
  split <;> norm_num

theorem RoundsTo.scaled {b : Binary} {v : ℚ} (h : b.RoundsTo v) :
    (b.mantissa : ℚ) - b.halfGapBelow ≤ v / 2 ^ b.exponent ∧
      v / 2 ^ b.exponent ≤ b.mantissa + 1 / 2 ∧
      (b.mantissa % 2 = 1 → (b.mantissa : ℚ) - b.halfGapBelow < v / 2 ^ b.exponent ∧
        v / 2 ^ b.exponent < b.mantissa + 1 / 2) := by
  have hp := two_zpow_pos b.exponent
  unfold RoundsTo lower upper at h
  rw [le_div_iff₀ hp, div_le_iff₀ hp, lt_div_iff₀ hp, div_lt_iff₀ hp]
  split at h
  · exact ⟨h.1, h.2, fun hodd => by omega⟩
  · exact ⟨h.1.le, h.2.le, fun _ => h⟩

theorem RoundsTo.pos {b : Binary} {v : ℚ} (h : b.RoundsTo v) (hm : 0 < b.mantissa) : 0 < v := by
  obtain ⟨hlo, -, -⟩ := h.scaled
  have hgap := b.halfGapBelow_le
  have hM1 : (1 : ℚ) ≤ b.mantissa := by exact_mod_cast hm
  have : 0 < v / 2 ^ b.exponent := by linarith
  exact (div_pos_iff_of_pos_right (two_zpow_pos _)).1 this

theorem RoundsTo.two_zpow_le {b : Binary} {v : ℚ} (hb : b.Finite) (hm : 0 < b.mantissa)
    (h : b.RoundsTo v) : (2 : ℚ) ^ (-1075 : ℤ) ≤ v := by
  obtain ⟨hlo, -, -⟩ := h.scaled
  have hgap := b.halfGapBelow_le
  have hM1 : (1 : ℚ) ≤ b.mantissa := by exact_mod_cast hm
  calc (2 : ℚ) ^ (-1075 : ℤ) = 1 / 2 * 2 ^ (-1074 : ℤ) := by
        rw [show (-1075 : ℤ) = -1 + -1074 by norm_num, zpow_add₀ (by norm_num)]
        norm_num
    _ ≤ ((b.mantissa : ℚ) - b.halfGapBelow) * 2 ^ b.exponent :=
        mul_le_mul (by linarith) (zpow_le_zpow_right₀ (by norm_num) hb.exponent_ge)
          (two_zpow_pos _).le (by linarith)
    _ ≤ v := (le_div_iff₀ (two_zpow_pos _)).1 hlo

theorem RoundsTo.le_two_zpow {b : Binary} {v : ℚ} (hb : b.Finite) (h : b.RoundsTo v) :
    v ≤ 2 ^ (1024 : ℤ) := by
  obtain ⟨-, hhi, -⟩ := h.scaled
  have hM : (b.mantissa : ℚ) + 1 / 2 ≤ 2 ^ 53 := by
    have : (b.mantissa : ℚ) + 1 ≤ 2 ^ 53 := by exact_mod_cast hb.mantissa_lt
    linarith
  calc v ≤ ((b.mantissa : ℚ) + 1 / 2) * 2 ^ b.exponent := (div_le_iff₀ (two_zpow_pos _)).1 hhi
    _ ≤ 2 ^ (53 : ℤ) * 2 ^ (971 : ℤ) :=
        mul_le_mul (by exact_mod_cast hM) (zpow_le_zpow_right₀ (by norm_num) hb.exponent_le)
          (two_zpow_pos _).le (by positivity)
    _ = 2 ^ (1024 : ℤ) := by rw [← zpow_add₀ (by norm_num)]; norm_num

end Binary

/-- Within the interval of a double, the scaled ratio rounds to its significand. -/
theorem halfEven_of_scaled {b : Binary} {w : ℚ} (hlo : (b.mantissa : ℚ) - 1 / 2 ≤ w)
    (hhi : w ≤ b.mantissa + 1 / 2)
    (hodd : b.mantissa % 2 = 1 → (b.mantissa : ℚ) - 1 / 2 < w ∧ w < b.mantissa + 1 / 2) :
    HalfEven w b.mantissa := by
  unfold HalfEven
  rcases Nat.mod_two_eq_zero_or_one b.mantissa with heven | hodd'
  · rcases lt_or_eq_of_le (abs_le.2 ⟨by linarith, by linarith⟩ : |w - b.mantissa| ≤ 1 / 2)
      with hlt | heq
    · exact .inl hlt
    · exact .inr ⟨heq, heven⟩
  · obtain ⟨h₁, h₂⟩ := hodd hodd'
    exact .inl (abs_lt.2 ⟨by linarith, by linarith⟩)

namespace Binary

/-- Just below the bottom of a binade the ratio scales one exponent lower, to a quotient that
rounds up to `2^53`. -/
theorem RoundsTo.below_binade {b : Binary} {v : ℚ} (hb : b.Finite) (h : b.RoundsTo v)
    (hn : b.narrowBelow = true) (hbelow : v < b.mantissa * 2 ^ b.exponent) :
    Scaled v (b.exponent - 1) ∧ HalfEven (v / 2 ^ (b.exponent - 1)) (2 ^ 53) := by
  obtain ⟨hlo, -, -⟩ := h.scaled
  obtain ⟨hM, hE⟩ := hb.narrow.1 hn
  set w := v / 2 ^ b.exponent with hw
  have hdouble : v / 2 ^ (b.exponent - 1) = 2 * w := by
    rw [zpow_sub_one₀ (by norm_num), hw]
    field_simp
  have hgap : b.halfGapBelow = 1 / 4 := by simp [halfGapBelow, hn]
  have hwlt : w < 2 ^ 52 := by
    rw [hw, div_lt_iff₀ (two_zpow_pos _)]
    exact_mod_cast hM ▸ hbelow
  rw [hgap, hM] at hlo
  push_cast at hlo
  rw [hdouble]
  refine ⟨⟨by omega, ?_, .inl ?_⟩, ?_⟩
  · rw [Nat.floor_lt (by linarith)]
    push_cast
    linarith
  · apply Nat.le_floor
    push_cast
    linarith
  · unfold HalfEven
    push_cast
    rcases lt_or_eq_of_le (show |2 * w - 2 ^ 53| ≤ 1 / 2 from
        abs_le.2 ⟨by linarith, by linarith⟩) with hlt | heq
    · exact .inl hlt
    · exact .inr ⟨heq, by norm_num⟩

/-- Anywhere else in the interval the ratio scales at the double's own exponent, to a quotient
that rounds to its significand. -/
theorem RoundsTo.at_exponent {b : Binary} {v : ℚ} (hb : b.Finite) (hm : 0 < b.mantissa)
    (h : b.RoundsTo v) (hn : ¬ (b.narrowBelow = true ∧ v < b.mantissa * 2 ^ b.exponent)) :
    Scaled v b.exponent ∧ HalfEven (v / 2 ^ b.exponent) b.mantissa := by
  obtain ⟨hlo, hhi, hodd⟩ := h.scaled
  have hgap := b.halfGapBelow_le
  have hM53 : (b.mantissa : ℚ) + 1 ≤ 2 ^ 53 := by exact_mod_cast hb.mantissa_lt
  have hM1 : (1 : ℚ) ≤ b.mantissa := by exact_mod_cast hm
  have hE := hb.exponent_ge
  set w := v / 2 ^ b.exponent with hw
  refine ⟨⟨hE, ?_, ?_⟩, ?_⟩
  · rw [Nat.floor_lt (by linarith)]
    push_cast
    linarith
  · by_cases hsub : b.exponent = -1074
    · exact .inr hsub
    left
    have hM52 : 2 ^ 52 ≤ b.mantissa := Nat.le_of_not_lt fun h => hsub (hb.subnormal h)
    apply Nat.le_floor
    by_cases hnb : b.narrowBelow = true
    · have hge : (b.mantissa : ℚ) ≤ w := by
        rw [hw, le_div_iff₀ (two_zpow_pos _)]
        exact not_lt.1 fun hlt => hn ⟨hnb, hlt⟩
      have : ((2 ^ 52 : ℕ) : ℚ) ≤ b.mantissa := by exact_mod_cast hM52
      push_cast at this ⊢
      linarith
    · have hne : b.mantissa ≠ 2 ^ 52 := fun h => hnb (hb.narrow.2 ⟨h, by omega⟩)
      have : ((2 ^ 52 + 1 : ℕ) : ℚ) ≤ b.mantissa := by exact_mod_cast (by omega)
      push_cast at this ⊢
      linarith
  · exact halfEven_of_scaled (by linarith) hhi fun hodd' => by
      obtain ⟨h₁, h₂⟩ := hodd hodd'
      exact ⟨by linarith, h₂⟩

end Binary

theorem ratioExponent_roundHalfEven {num den : ℕ} (hnum : 0 < num) (hden : 0 < den) {e : ℤ}
    {r : ℕ} (hs : Scaled ((num : ℚ) / den) e) (hr : HalfEven ((num : ℚ) / den / 2 ^ e) r) :
    ratioExponent num den = e ∧
      roundHalfEven (num * Nat.pow 2 (-e).toNat) (den * Nat.pow 2 e.toNat) = r := by
  refine ⟨Scaled.unique (by positivity) (ratioExponent_spec hnum hden) hs, HalfEven.unique ?_ hr⟩
  have := roundHalfEven_spec (num * Nat.pow 2 (-e).toNat) (den * Nat.pow 2 e.toNat)
    (Nat.mul_pos hden (by simp [Nat.pow_eq]))
  rwa [scaled_ratio] at this

/-- **Rounding.** A ratio in the interval of a finite nonzero double rounds to that double. -/
theorem nearestRatio_eq_of_roundsTo {b : Binary} (hb : b.Finite) (hm : 0 < b.mantissa)
    {num den : ℕ} (hnum : 0 < num) (hden : 0 < den) (h : b.RoundsTo ((num : ℚ) / den))
    (negative : Bool) : nearestRatio negative num den = assemble negative b.biased b.fraction := by
  have hE := hb.exponent_le
  rw [nearestRatio_eq]
  by_cases hn : b.narrowBelow = true ∧ (num : ℚ) / den < b.mantissa * 2 ^ b.exponent
  · obtain ⟨hM, -⟩ := hb.narrow.1 hn.1
    obtain ⟨hscaled, hhalf⟩ := h.below_binade hb hn.1 hn.2
    obtain ⟨he, hr⟩ := ratioExponent_roundHalfEven hnum hden hscaled hhalf
    simp only [he]
    simp only [hr]
    simp only [Nat.pow_eq, ↓reduceIte, lt_self_iff_false, Nat.sub_self]
    rw [if_neg (by omega)]
    simp only [Binary.biased, Binary.fraction, hM, lt_self_iff_false, ↓reduceIte, Nat.mod_self]
    congr 2
    omega
  · obtain ⟨hscaled, hhalf⟩ := h.at_exponent hb hm hn
    obtain ⟨he, hr⟩ := ratioExponent_roundHalfEven hnum hden hscaled hhalf
    have hM53 := hb.mantissa_lt
    simp only [he]
    simp only [hr]
    simp only [Nat.pow_eq]
    rw [if_neg (show ¬ b.mantissa = 2 ^ 53 by omega)]
    by_cases hsub : b.mantissa < 2 ^ 52
    · simp only [hsub, ↓reduceIte, Binary.biased, Binary.fraction, Nat.mod_eq_of_lt hsub]
    · rw [if_neg hsub, if_neg (by omega)]
      simp only [Binary.biased, Binary.fraction, hsub, ↓reduceIte]
      rw [show b.mantissa % 2 ^ 52 = b.mantissa - 2 ^ 52 by omega]

/-! ## From a decimal -/

theorem digitCount_bounds {c : ℕ} (hc : 0 < c) :
    10 ^ (digitCount c - 1) ≤ c ∧ c < 10 ^ digitCount c := by
  have hpos : 0 < digitCount c := Nat.length_toDigits_pos
  refine ⟨?_, (Nat.length_toDigits_le_iff (by norm_num) hpos).1 le_rfl⟩
  rcases Nat.eq_or_lt_of_le hpos with h1 | hgt
  · rw [← h1]
    exact hc
  · by_contra hlt
    have hshort := (Nat.length_toDigits_le_iff (by norm_num) (show 0 < digitCount c - 1 by omega)).2
      (Nat.lt_of_not_le hlt)
    unfold digitCount at hgt hshort
    omega

theorem ten_zpow_pos (s : ℤ) : (0 : ℚ) < 10 ^ s := zpow_pos (by norm_num) s

/-- A positive `c` of `k` digits puts `c · 10^s` from `10^(k-1+s)` up to below `10^(k+s)`. -/
theorem decimal_bounds {c : ℕ} (hc : 0 < c) (s : ℤ) :
    (10 : ℚ) ^ ((digitCount c : ℤ) - 1 + s) ≤ c * 10 ^ s ∧
      (c : ℚ) * 10 ^ s < 10 ^ ((digitCount c : ℤ) + s) := by
  obtain ⟨hc₁, hc₂⟩ := digitCount_bounds hc
  have hpos : 0 < digitCount c := Nat.length_toDigits_pos
  have hten := ten_zpow_pos s
  have hc₁' : (10 : ℚ) ^ ((digitCount c : ℤ) - 1) ≤ c := by
    rw [show (digitCount c : ℤ) - 1 = ((digitCount c - 1 : ℕ) : ℤ) by omega, zpow_natCast]
    exact_mod_cast hc₁
  have hc₂' : (c : ℚ) < 10 ^ (digitCount c : ℤ) := by
    rw [zpow_natCast]
    exact_mod_cast hc₂
  rw [zpow_add₀ (by norm_num), zpow_add₀ (by norm_num)]
  exact ⟨mul_le_mul_of_nonneg_right hc₁' hten.le, mul_lt_mul_of_pos_right hc₂' hten⟩

theorem ten_zpow_neg_324_lt : (10 : ℚ) ^ (-324 : ℤ) < 2 ^ (-1075 : ℤ) := by
  have hbig : ((2 : ℕ) ^ 1075 : ℚ) < (10 : ℕ) ^ 324 := by
    exact_mod_cast (by decide +kernel : (2 : ℕ) ^ 1075 < 10 ^ 324)
  rw [show (-324 : ℤ) = -((324 : ℕ) : ℤ) by norm_num,
    show (-1075 : ℤ) = -((1075 : ℕ) : ℤ) by norm_num, zpow_neg, zpow_neg, zpow_natCast,
    zpow_natCast]
  push_cast at hbig
  exact inv_strictAnti₀ (by positivity) hbig

theorem two_zpow_1024_lt : (2 : ℚ) ^ (1024 : ℤ) < 10 ^ (310 : ℤ) := by
  have hbig : ((2 : ℕ) ^ 1024 : ℚ) < (10 : ℕ) ^ 310 := by
    exact_mod_cast (by decide +kernel : (2 : ℕ) ^ 1024 < 10 ^ 310)
  rw [show (1024 : ℤ) = ((1024 : ℕ) : ℤ) by norm_num, show (310 : ℤ) = ((310 : ℕ) : ℤ) by norm_num,
    zpow_natCast, zpow_natCast]
  exact_mod_cast hbig

/-- A decimal in the interval of a double has a point position within the range of doubles, so
`nearest` reaches the exact rounding. -/
theorem magnitude_of_roundsTo {b : Binary} (hb : b.Finite) (hm : 0 < b.mantissa) {c : ℕ} {s : ℤ}
    (hc : 0 < c) (h : b.RoundsTo ((c : ℚ) * 10 ^ s)) :
    -330 ≤ (digitCount c : ℤ) + s ∧ (digitCount c : ℤ) + s ≤ 310 := by
  have hmin := h.two_zpow_le hb hm
  have hmax := h.le_two_zpow hb
  obtain ⟨hlo, hhi⟩ := decimal_bounds hc s
  constructor
  · by_contra hlt
    have : (10 : ℚ) ^ ((digitCount c : ℤ) + s) ≤ 10 ^ (-324 : ℤ) :=
      zpow_le_zpow_right₀ (by norm_num) (by omega)
    linarith [ten_zpow_neg_324_lt]
  · by_contra hlt
    have : (10 : ℚ) ^ (310 : ℤ) ≤ 10 ^ ((digitCount c : ℤ) - 1 + s) :=
      zpow_le_zpow_right₀ (by norm_num) (by omega)
    exact absurd ((this.trans hlo).trans hmax) (not_le.2 two_zpow_1024_lt)

/-- **Reading a decimal.** A decimal in the interval of a finite nonzero double reads as that
double. -/
theorem nearest_eq_of_roundsTo {b : Binary} (hb : b.Finite) (hm : 0 < b.mantissa) {c : ℕ} {s : ℤ}
    (h : b.RoundsTo ((c : ℚ) * 10 ^ s)) (negative : Bool) :
    nearest negative c s = assemble negative b.biased b.fraction := by
  have hc : 0 < c := by
    have hv := h.pos hm
    by_contra h0
    rw [Nat.eq_zero_of_not_pos h0] at hv
    simp at hv
  obtain ⟨hmin, hmax⟩ := magnitude_of_roundsTo hb hm hc h
  unfold nearest
  rw [if_neg hc.ne', if_neg (by omega), if_neg (by omega)]
  apply nearestRatio_eq_of_roundsTo hb hm (Nat.mul_pos hc (by simp [Nat.pow_eq]))
    (by simp [Nat.pow_eq])
  convert h using 1
  simp only [Nat.pow_eq]
  push_cast
  rw [← zpow_natCast, ← zpow_natCast, mul_div_assoc, ← zpow_sub₀ (by norm_num)]
  congr 2
  omega

end StatementClient.Decimal
