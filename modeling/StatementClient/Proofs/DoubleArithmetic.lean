import Mathlib
import StatementClient.Proofs.DoubleRounding
import StatementClient.Proofs.DoubleOrder

/-!
# Arithmetic of doubles

The floating-point model adds, subtracts and multiplies exactly, in integers scaled by a power of
two, and then rounds (`roundWithAccuracy`): it shifts the significand right to the target exponent,
keeping a round bit and a sticky bit, rounds half to even, and shifts once more when the rounding
carried into a 54th bit. That is `roundDouble` of the exact result (`roundWithAccuracy_holds`), and
packing turns a result of `2^1024` or more into an infinity (`key_pack`).

A double is read in the extended rationals (`UnpackedFloat.key`), where the model's order is the
order of the values (`Float.le_iff_key`). So each operation, read there, is `roundKey` of the exact
result, and `roundKey` is monotone: sums, differences and products of doubles are monotone in
their arguments, as far as no NaN arises (`Float.add_le_add`, `Float.sub_le_sub_right`,
`Float.mul_le_mul_of_nonneg_left`).
-/

namespace StatementClient.Decimal

open Float.Model Float.Model.UnpackedFloat

/-! ## Shifting and rounding a significand -/

/-- Shifting an exact significand right by `k` leaves its quotient by `2^k`; the round bit says
whether the remainder reaches half of `2^k`, the sticky bit whether it is off both zero and that
half. -/
theorem shiftRight_exact (m k : ℕ) :
    (⟨m, false, false⟩ : ExtendedMantissa) >>> k =
      ⟨m / 2 ^ k, decide (2 ^ k ≤ 2 * (m % 2 ^ k)),
        decide (2 * (m % 2 ^ k) % 2 ^ k ≠ 0)⟩ := by
  induction k with
  | zero => simp [HShiftRight.hShiftRight, Nat.repeat, Nat.mod_one]
  | succ k ih =>
    change ExtendedMantissa.shiftRightOne ((⟨m, false, false⟩ : ExtendedMantissa) >>> k) = _
    rw [ih, Nat.mod_pow_succ, Nat.pow_succ]
    simp only [ExtendedMantissa.shiftRightOne, Nat.div_div_eq_div_mul, ExtendedMantissa.mk.injEq,
      true_and]
    have hP : 0 < 2 ^ k := Nat.two_pow_pos k
    have hr : m % 2 ^ k < 2 ^ k := Nat.mod_lt _ hP
    generalize 2 ^ k = P at hP hr ⊢
    generalize m % P = r at hr ⊢
    have hsticky : 2 * (r + P * (m / P % 2)) % (P * 2) = 2 * r := by
      rw [show 2 * (r + P * (m / P % 2)) = 2 * r + P * 2 * (m / P % 2) by ring,
        Nat.add_mul_mod_self_left, Nat.mod_eq_of_lt (by omega)]
    rw [hsticky]
    have hbit : (m / P % 2 != 0) = decide (P * 2 ≤ 2 * (r + P * (m / P % 2))) := by
      rcases Nat.mod_two_eq_zero_or_one (m / P) with h | h <;> rw [h] <;> simp <;> omega
    refine ⟨hbit, ?_⟩
    rcases Nat.lt_or_ge (2 * r) P with hlt | hge
    · rw [Nat.mod_eq_of_lt hlt]
      simp only [Nat.not_le.2 hlt, decide_false, Bool.false_or]
    · simp only [hge, decide_true, Bool.true_or]
      exact (decide_eq_true (by omega)).symm

theorem roundedMantissa_shiftRight (m k : ℕ) :
    ((⟨m, false, false⟩ : ExtendedMantissa) >>> k).roundedMantissa =
      roundHalfEven m (2 ^ k) := by
  rw [shiftRight_exact]
  have hP : 0 < 2 ^ k := Nat.two_pow_pos k
  have hr : m % 2 ^ k < 2 ^ k := Nat.mod_lt _ hP
  unfold roundHalfEven
  generalize 2 ^ k = P at hP hr ⊢
  generalize m % P = r at hr ⊢
  generalize m / P = q
  rcases Nat.lt_or_ge (2 * r) P with hlt | hge
  · rw [Nat.mod_eq_of_lt hlt, decide_eq_false (Nat.not_le.2 hlt), if_neg (by omega),
      if_neg (by omega)]
    by_cases hr0 : 2 * r = 0
    · rw [decide_eq_false (not_not.2 hr0)]
      rfl
    · rw [decide_eq_true hr0]
      rfl
  · rw [Nat.mod_eq_sub_mod hge, Nat.mod_eq_of_lt (by omega), decide_eq_true hge]
    by_cases htie : 2 * r = P
    · rw [decide_eq_false (by omega), if_neg (by omega)]
      rcases Nat.mod_two_eq_zero_or_one q with h | h
      · rw [if_neg (by omega)]
        show q + q % 2 = q
        omega
      · rw [if_pos ⟨htie, h⟩]
        show q + q % 2 = q + 1
        omega
    · rw [decide_eq_true (by omega), if_pos (by omega)]
      rfl

/-! ## The rounding of the model -/

/-- `x` with the sign `s`. -/
def signed : Sign → ℚ → ℚ
  | .positive, x => x
  | .negative, x => -x

theorem signed_apply (s : Sign) (n : ℤ) (y : ℚ) :
    ((s.apply n : ℤ) : ℚ) * y = signed s (n * y) := by
  cases s <;> simp [Sign.apply, signed]

@[simp]
theorem signed_zero (s : Sign) : signed s 0 = 0 := by
  cases s <;> simp [signed]

theorem roundDouble_signed (s : Sign) {x : ℚ} (hx : 0 ≤ x) :
    roundDouble (signed s x) = signed s (nearestGrid x) := by
  cases s with
  | positive => simp [signed, roundDouble, not_lt.2 hx]
  | negative =>
    rcases hx.eq_or_lt with rfl | hpos
    · simp [signed, roundDouble_zero, nearestGrid_zero]
    · simp [signed, roundDouble, hpos]

/-- A canonical significand and exponent, the exponent unbounded above: 53 bits, or fewer only at
the lowest exponent. -/
def Canonical (m : ℕ) (e : ℤ) : Prop :=
  m < 2 ^ 53 ∧ -1074 ≤ e ∧ (2 ^ 52 ≤ m ∨ e = -1074)

/-- `u` holds `x` rounded to a double, the exponent unbounded above: a zero when the rounding is
zero, else a canonical finite double of that value. -/
def Holds (x : ℚ) : UnpackedFloat → Prop
  | .zero _ => roundDouble x = 0
  | .finite s m e _ => Canonical m e ∧ signed s (m * 2 ^ e) = roundDouble x
  | _ => False

theorem targetExponent_eq (m : ℕ) (e : ℤ) :
    Format.binary64.targetExponent (totalExponent m e) = max ((m.log2 : ℤ) + e - 52) (-1074) := by
  simp only [Format.targetExponent, totalExponent, Format.mantissaBits, Format.minExponent]
  norm_num
  omega

theorem scaled_target {m : ℕ} (hm : 0 < m) (e : ℤ) :
    Scaled ((m : ℚ) * 2 ^ e) (max ((m.log2 : ℤ) + e - 52) (-1074)) := by
  have hx : (0 : ℚ) ≤ m * 2 ^ e := by positivity
  have hlo : (2 : ℚ) ^ ((m.log2 : ℤ) + e) ≤ m * 2 ^ e := by
    rw [zpow_add₀ two_ne_zero, zpow_natCast]
    exact mul_le_mul_of_nonneg_right (by exact_mod_cast Nat.log2_self_le hm.ne')
      (two_zpow_pos e).le
  have hhi : (m : ℚ) * 2 ^ e < 2 ^ (((m.log2 + 1 : ℕ) : ℤ) + e) := by
    rw [zpow_add₀ two_ne_zero, zpow_natCast]
    exact mul_lt_mul_of_pos_right (by exact_mod_cast Nat.lt_log2_self) (two_zpow_pos e)
  refine ⟨le_max_right _ _, (floor_div_zpow_lt_iff hx 53 _).2 ?_, ?_⟩
  · exact hhi.trans_le (zpow_le_zpow_right₀ (by norm_num) (by push_cast; omega))
  · rcases le_or_gt (-1074) ((m.log2 : ℤ) + e - 52) with h | h
    · refine .inl ((le_floor_div_zpow_iff hx 52 _).2 (le_trans ?_ hlo))
      exact zpow_le_zpow_right₀ (by norm_num) (by omega)
    · exact .inr (by omega)

theorem shiftToTargetExponent_exact (m : ℕ) (e : ℤ) :
    shiftToTargetExponent .binary64 m e .exact =
      ((⟨m, false, false⟩ : ExtendedMantissa) >>>
          (Format.binary64.targetExponent (totalExponent m e) - e).toNat,
        e + (Format.binary64.targetExponent (totalExponent m e) - e).toNat) := rfl

theorem shiftToTargetExponent_small {r : ℕ} (hr : r < 2 ^ 53) {t : ℤ} (ht : -1074 ≤ t) :
    shiftToTargetExponent .binary64 r t .exact = (⟨r, false, false⟩, t) := by
  have hlog : (r.log2 : ℤ) ≤ 52 := by
    rcases Nat.eq_zero_or_pos r with rfl | hpos
    · simp
    · have := (Nat.log2_lt hpos.ne').2 hr
      omega
  have hk : (Format.binary64.targetExponent (totalExponent r t) - t).toNat = 0 := by
    rw [targetExponent_eq]
    omega
  rw [shiftToTargetExponent_exact, hk]
  simp [HShiftRight.hShiftRight, Nat.repeat]

theorem shiftToTargetExponent_carry {t : ℤ} (ht : -1074 ≤ t) :
    shiftToTargetExponent .binary64 (2 ^ 53) t .exact = (⟨2 ^ 52, false, false⟩, t + 1) := by
  have hk : (Format.binary64.targetExponent (totalExponent (2 ^ 53) t) - t).toNat = 1 := by
    rw [targetExponent_eq, Nat.log2_two_pow]
    omega
  rw [shiftToTargetExponent_exact, hk, shiftRight_exact]
  norm_num

/-- Rounding an exact significand `m > 0` at an exponent no above the target gives a double that
holds `roundDouble` of its value: zero, a canonical double, or `2^52` one exponent up after a
carry. -/
theorem roundWithAccuracy_holds (s : Sign) {m : ℕ} (hm : 0 < m) {e : ℤ}
    (he : e ≤ Format.binary64.targetExponent (totalExponent m e)) :
    Holds (signed s (m * 2 ^ e)) (roundWithAccuracy .binary64 s m e .exact) := by
  have htarget := targetExponent_eq m e
  set t := Format.binary64.targetExponent (totalExponent m e) with ht
  set k := (t - e).toNat with hk
  have hkt : e + k = t := by omega
  have hx : (0 : ℚ) < m * 2 ^ e := by positivity
  have hs : Scaled ((m : ℚ) * 2 ^ e) t := htarget ▸ scaled_target hm e
  have hquot : (m : ℚ) * 2 ^ e / 2 ^ t = (m : ℚ) / ((2 ^ k : ℕ) : ℚ) := by
    rw [← hkt, zpow_add₀ two_ne_zero, zpow_natCast]
    push_cast
    field_simp
  have hhalf : HalfEven ((m : ℚ) * 2 ^ e / 2 ^ t) (roundHalfEven m (2 ^ k)) := by
    rw [hquot]
    exact roundHalfEven_spec m (2 ^ k) (Nat.two_pow_pos k)
  set r := roundHalfEven m (2 ^ k) with hr
  have hvalue : roundDouble (signed s (m * 2 ^ e)) = signed s (r * 2 ^ t) := by
    rw [roundDouble_signed s hx.le, nearestGrid_eq hx hs hhalf]
  have hr53 : r ≤ 2 ^ 53 := by
    refine hhalf.le_of_le ?_
    have h := (floor_div_zpow_lt_iff hx.le 53 t).1 hs.2.1
    rw [zpow_add₀ two_ne_zero, zpow_natCast] at h
    push_cast
    exact ((div_lt_iff₀ (two_zpow_pos t)).2 h).le
  have hr52 : t ≠ -1074 → 2 ^ 52 ≤ r := fun hne => by
    refine hhalf.ge_of_ge ?_
    have h := (le_floor_div_zpow_iff hx.le 52 t).1 (hs.2.2.resolve_right hne)
    rw [zpow_add₀ two_ne_zero, zpow_natCast] at h
    push_cast
    exact (le_div_iff₀ (two_zpow_pos t)).2 h
  -- the first shift lands on the target exponent with `r`; the second shifts only a carry
  unfold roundWithAccuracy
  rw [shiftToTargetExponent_exact]
  dsimp only
  rw [roundedMantissa_shiftRight, ← ht, ← hk, hkt, ← hr]
  rcases Nat.lt_or_ge r (2 ^ 53) with hlt | hge
  · rw [shiftToTargetExponent_small hlt hs.1]
    by_cases hr0 : r = 0
    · rw [dif_pos hr0]
      show roundDouble _ = 0
      rw [hvalue, hr0]
      simp
    · rw [dif_neg hr0]
      refine ⟨⟨hlt, hs.1, ?_⟩, hvalue.symm⟩
      by_cases htmin : t = -1074
      · exact .inr htmin
      · exact .inl (hr52 htmin)
  · have hcarry : r = 2 ^ 53 := le_antisymm hr53 hge
    rw [hcarry, shiftToTargetExponent_carry hs.1, dif_neg (by positivity)]
    refine ⟨⟨by norm_num, by omega, .inl le_rfl⟩, ?_⟩
    rw [hvalue, hcarry, zpow_add₀ two_ne_zero]
    push_cast
    ring_nf

theorem log2_mul_two_pow {m : ℕ} (hm : 0 < m) (k : ℕ) : (m * 2 ^ k).log2 = m.log2 + k := by
  rw [Nat.log2_eq_iff (by positivity)]
  constructor
  · rw [pow_add]
    exact Nat.mul_le_mul_right _ (Nat.log2_self_le hm.ne')
  · rw [show m.log2 + k + 1 = (m.log2 + 1) + k by ring, pow_add]
    exact Nat.mul_lt_mul_of_pos_right Nat.lt_log2_self (by positivity)

/-- `round` first moves an exponent above the target down to it, which keeps the value and the
target, and then rounds. -/
theorem round_holds (s : Sign) {m : ℕ} (hm : 0 < m) (e : ℤ) :
    Holds (signed s (m * 2 ^ e)) (UnpackedFloat.round .binary64 s m e) := by
  set t := Format.binary64.targetExponent (totalExponent m e) with ht
  set k := (e - t).toNat with hk
  have hm' : 0 < m * 2 ^ k := by positivity
  have htotal : totalExponent (m * 2 ^ k) (e - k) = totalExponent m e := by
    simp only [totalExponent, log2_mul_two_pow hm]
    push_cast
    ring
  have hvalue : ((m * 2 ^ k : ℕ) : ℚ) * 2 ^ (e - k) = m * 2 ^ e := by
    push_cast
    rw [mul_assoc, ← zpow_natCast, ← zpow_add₀ two_ne_zero]
    congr 2
    ring
  have h := roundWithAccuracy_holds s hm' (e := e - k) (by rw [htotal, ← ht]; omega)
  rw [hvalue] at h
  unfold UnpackedFloat.round
  simp only [decreaseExponent, Nat.shiftLeft_eq, ← ht, ← hk]
  exact h

theorem normalize_holds (n e : ℤ) (z : Sign) :
    Holds ((n : ℚ) * 2 ^ e) (UnpackedFloat.normalize .binary64 n e z) := by
  unfold UnpackedFloat.normalize
  rcases lt_trichotomy n 0 with hneg | rfl | hpos
  · rw [Std.compare_eq_lt.2 hneg]
    have h := round_holds .negative (m := (-n).toNat) (by omega) e
    have hcast : (((-n).toNat : ℕ) : ℚ) = -n := by exact_mod_cast Int.toNat_of_nonneg (by omega)
    rwa [hcast, signed, neg_mul, neg_neg] at h
  · simp [Holds, roundDouble_zero]
  · rw [Std.compare_eq_gt.2 hpos]
    have h := round_holds .positive (m := n.toNat) (by omega) e
    have hcast : ((n.toNat : ℕ) : ℚ) = n := by exact_mod_cast Int.toNat_of_nonneg (by omega)
    rwa [hcast, signed] at h

/-! ## Exact operations, then rounding -/

/-- The value of an unpacked double; zero for an infinity and a NaN. -/
def value : UnpackedFloat → ℚ
  | .finite s m e _ => signed s (m * 2 ^ e)
  | _ => 0

/-- A zero or a canonical finite double, the exponent unbounded above. -/
def Finite : UnpackedFloat → Prop
  | .zero _ => True
  | .finite _ m e _ => Canonical m e
  | _ => False

theorem Canonical.onGrid {m : ℕ} {e : ℤ} (h : Canonical m e) (s : Sign) :
    OnGrid (signed s (m * 2 ^ e)) := by
  have hg : OnGrid ((m : ℚ) * 2 ^ e) :=
    ⟨m, e, by rw [Int.abs_natCast]; exact_mod_cast h.1.le, h.2.1, by push_cast; rfl⟩
  cases s with
  | negative => exact hg.neg
  | positive => exact hg

theorem Finite.holds {u : UnpackedFloat} (h : Finite u) : Holds (value u) u := by
  cases u with
  | zero s => exact roundDouble_zero
  | finite s m e hm => exact ⟨h, (roundDouble_of_onGrid (h.onGrid s)).symm⟩
  | infinity s => exact h.elim
  | notANumber => exact h.elim

theorem Holds.finite {x : ℚ} {u : UnpackedFloat} (h : Holds x u) : Finite u := by
  cases u with
  | zero s => trivial
  | finite s m e hm => exact h.1
  | infinity s => exact h.elim
  | notANumber => exact h.elim

theorem Holds.value_eq {x : ℚ} {u : UnpackedFloat} (h : Holds x u) : value u = roundDouble x := by
  cases u with
  | zero s => exact h.symm
  | finite s m e hm => exact h.2
  | infinity s => exact h.elim
  | notANumber => exact h.elim

theorem decreaseExponent_value (s : Sign) (m : ℕ) {e g : ℤ} (hg : g ≤ e) :
    ((s.apply ((decreaseExponent m e g).1 : ℤ) : ℤ) : ℚ) * 2 ^ g = signed s (m * 2 ^ e) := by
  rw [signed_apply]
  congr 1
  simp only [decreaseExponent, Nat.shiftLeft_eq]
  push_cast
  rw [mul_assoc, ← zpow_natCast, ← zpow_add₀ two_ne_zero]
  congr 2
  omega

/-- The sum of two finite doubles holds the sum of their values: both are aligned to the lower
exponent, added exactly and normalized. -/
theorem add_holds {u v : UnpackedFloat} (hu : Finite u) (hv : Finite v) :
    Holds (value u + value v) (add .binary64 u v) := by
  cases u with
  | zero s =>
    cases v with
    | zero t => cases s <;> cases t <;> exact (by simp [value]; exact roundDouble_zero)
    | finite t n f hn =>
      show Holds _ (.finite t n f hn)
      simpa [value] using hv.holds
    | infinity t => exact hv.elim
    | notANumber => exact hv.elim
  | finite s m e hm =>
    cases v with
    | zero t =>
      show Holds _ (.finite s m e hm)
      simpa [value] using hu.holds
    | finite t n f hn =>
      have h := normalize_holds (s.apply ((decreaseExponent m e (min e f)).1 : ℤ) +
        t.apply ((decreaseExponent n f (min e f)).1 : ℤ)) (min e f) .positive
      rw [Int.cast_add, add_mul, decreaseExponent_value s m (min_le_left e f),
        decreaseExponent_value t n (min_le_right e f)] at h
      exact h
    | infinity t => exact hv.elim
    | notANumber => exact hv.elim
  | infinity s => exact hu.elim
  | notANumber => exact hu.elim

theorem signed_neg (s : Sign) (x : ℚ) : signed (-s) x = -signed s x := by
  cases s
  · exact (neg_neg x).symm
  · rfl

theorem value_neg (u : UnpackedFloat) : value u.neg = -value u := by
  rcases u with s | _ | s | ⟨s, m, e, hm⟩
  · simp [UnpackedFloat.neg, value]
  · simp [UnpackedFloat.neg, value]
  · simp [UnpackedFloat.neg, value]
  · exact signed_neg s _

theorem Finite.neg {u : UnpackedFloat} (h : Finite u) : Finite u.neg := by
  rcases u with s | _ | s | ⟨s, m, e, hm⟩
  · exact h.elim
  · exact h.elim
  · trivial
  · exact h

theorem sub_eq_add_neg (u v : UnpackedFloat) : sub .binary64 u v = add .binary64 u v.neg := by
  rcases u with s | _ | s | ⟨s, m, e, hm⟩ <;> rcases v with t | _ | t | ⟨t, n, f, hn⟩ <;>
    try rfl
  show UnpackedFloat.normalize .binary64 (s.apply _ - t.apply _) _ _ =
    UnpackedFloat.normalize .binary64 (s.apply _ + (-t).apply _) _ _
  congr 1
  cases t <;> simp [Sign.apply]
  omega

theorem signed_mul (s t : Sign) (x y : ℚ) : signed (s * t) (x * y) = signed s x * signed t y := by
  cases s <;> cases t <;> simp [signed]

/-- The product of two finite doubles holds the product of their values: the significands are
multiplied exactly and rounded. -/
theorem mul_holds {u v : UnpackedFloat} (hu : Finite u) (hv : Finite v) :
    Holds (value u * value v) (mul .binary64 u v) := by
  cases u with
  | zero s =>
    cases v with
    | zero t => exact (by simp [value]; exact roundDouble_zero)
    | finite t n f hn => exact (by simp [value]; exact roundDouble_zero)
    | infinity t => exact hv.elim
    | notANumber => exact hv.elim
  | finite s m e hm =>
    cases v with
    | zero t => exact (by simp [value]; exact roundDouble_zero)
    | finite t n f hn =>
      have hle : e + f ≤ Format.binary64.targetExponent (totalExponent (m * n) (e + f)) := by
        rw [targetExponent_eq]
        rcases hu.2.2 with hm52 | hem
        · have hlog : 52 ≤ (m * n).log2 :=
            (Nat.le_log2 (by positivity)).2 (hm52.trans (Nat.le_mul_of_pos_right m hn))
          omega
        · rcases hv.2.2 with hn52 | hfn
          · have hlog : 52 ≤ (m * n).log2 :=
              (Nat.le_log2 (by positivity)).2 (hn52.trans (Nat.le_mul_of_pos_left n hm))
            omega
          · omega
      have h := roundWithAccuracy_holds (s * t) (Nat.mul_pos hm hn) hle
      have hvalue : signed (s * t) (((m * n : ℕ) : ℚ) * 2 ^ (e + f)) =
          signed s (m * 2 ^ e) * signed t (n * 2 ^ f) := by
        rw [← signed_mul, zpow_add₀ two_ne_zero]
        push_cast
        ring_nf
      rw [hvalue] at h
      exact h
    | infinity t => exact hv.elim
    | notANumber => exact hv.elim
  | infinity s => exact hu.elim
  | notANumber => exact hu.elim

/-! ## Packing and unpacking -/

theorem unpackSign_packComponents (s : Sign) (E : BitVec 11) (M : BitVec 52) :
    Sign.ofBitVec (@unpackSign .binary64 (packComponents .binary64 s E M)) = s := by
  have h := unpackSign_toNat (packComponents .binary64 s E M)
  rw [packComponents_toNat] at h
  have hE := E.isLt
  have hM := M.isLt
  have hS : s.toBitVec.toNat < 2 := s.toBitVec.isLt
  have hs : @unpackSign .binary64 (packComponents .binary64 s E M) = s.toBitVec := by
    apply BitVec.eq_of_toNat_eq
    rw [h]
    omega
  rw [hs]
  cases s <;> rfl

theorem unpack_pack_zero (s : Sign) : (Float.Model.pack (.zero s)).unpack = .zero s := by
  show UnpackedFloat.unpack .binary64 (packComponents .binary64 s 0 0) = _
  simp [UnpackedFloat.unpack]

theorem unpack_pack_infinity (s : Sign) :
    (Float.Model.pack (.infinity s)).unpack = .infinity s := by
  show UnpackedFloat.unpack .binary64 (packComponents .binary64 s (-1#11) 0) = _
  simp [UnpackedFloat.unpack]

theorem unpack_pack_nan : (Float.Model.pack .notANumber).unpack = .notANumber := by
  show UnpackedFloat.unpack .binary64 (packComponents .binary64 .positive (-1#11) (1#52 <<< 51)) = _
  simp [UnpackedFloat.unpack]

theorem unpack_pack_normal {s : Sign} {m : ℕ} {e : ℤ} (hm : 0 < m) (hlo : 2 ^ 52 ≤ m)
    (hhi : m < 2 ^ 53) (he : -1074 ≤ e) (he' : e ≤ 971) :
    (Float.Model.pack (.finite s m e hm)).unpack = .finite s m e hm := by
  have hlog : m.log2 = 52 := (Nat.log2_eq_iff hm.ne').2 ⟨hlo, hhi⟩
  show UnpackedFloat.unpack .binary64 (UnpackedFloat.pack .binary64 (.finite s m e hm)) = _
  have hbias : (Format.binary64.exponentBias : ℤ) = 1023 := by decide
  simp only [UnpackedFloat.pack, hlog, hbias, Nat.cast_ofNat]
  rw [if_neg (by omega), if_pos (show 52 + 1 = Format.binary64.mantissaBits from rfl)]
  simp only [UnpackedFloat.unpack, unpackMantissa_packComponents, unpackExponent_packComponents,
    unpackSign_packComponents]
  have hE : (BitVec.ofNat 11 (e + 1023 + 52).toNat).toNat = (e + 1075).toNat := by
    rw [BitVec.toNat_ofNat]
    omega
  have hne1 : BitVec.ofNat 11 (e + 1023 + 52).toNat ≠ -1#11 := fun h => by
    have := congrArg BitVec.toNat h
    rw [hE] at this
    have h1 : (-1#11 : BitVec 11).toNat = 2047 := by decide
    omega
  have hne0 : BitVec.ofNat 11 (e + 1023 + 52).toNat ≠ 0#11 := fun h => by
    have := congrArg BitVec.toNat h
    rw [hE, BitVec.toNat_zero] at this
    omega
  have hM : (1#1 ++ BitVec.ofNat 52 m).toNat = m := by
    have hlow : (BitVec.ofNat 52 m).toNat = m - 2 ^ 52 := by
      rw [BitVec.toNat_ofNat]
      omega
    rw [BitVec.toNat_append, hlow, ← Nat.shiftLeft_add_eq_or_of_lt (by omega)]
    simp only [Nat.shiftLeft_eq]
    simp
    omega
  simp only [hne1, hne0, ↓reduceIte, UnpackedFloat.finite.injEq, hM, hE, true_and,
    hbias]
  omega

theorem unpack_pack_subnormal {s : Sign} {m : ℕ} (hm : 0 < m) (hhi : m < 2 ^ 52) :
    (Float.Model.pack (.finite s m (-1074) hm)).unpack = .finite s m (-1074) hm := by
  have hlog : m.log2 < 52 := (Nat.log2_lt hm.ne').2 hhi
  have hbias : (Format.binary64.exponentBias : ℤ) = 1023 := by decide
  show UnpackedFloat.unpack .binary64 (UnpackedFloat.pack .binary64 (.finite s m (-1074) hm)) = _
  simp only [UnpackedFloat.pack, hbias, Nat.cast_ofNat]
  rw [if_neg (by decide), if_neg (show m.log2 + 1 ≠ Format.binary64.mantissaBits by
    simp only [Format.mantissaBits]; omega)]
  simp only [UnpackedFloat.unpack, unpackMantissa_packComponents, unpackExponent_packComponents,
    unpackSign_packComponents]
  have hM : (BitVec.ofNat 52 m).toNat = m := by
    rw [BitVec.toNat_ofNat]
    omega
  have hne : BitVec.ofNat 52 m ≠ 0#52 := fun h => by
    have := congrArg BitVec.toNat h
    rw [hM, BitVec.toNat_zero] at this
    omega
  have htop : (0#11 : BitVec 11) ≠ -1#11 := by decide
  simp only [hne, hM, htop, ↓reduceIte, ↓reduceDIte, UnpackedFloat.finite.injEq, true_and,
    hbias, BitVec.toNat_zero]
  norm_num

theorem unpack_pack_overflow {s : Sign} {m : ℕ} {e : ℤ} (hm : 0 < m) (he : 972 ≤ e) :
    (Float.Model.pack (.finite s m e hm)).unpack = .infinity s := by
  have hbias : (Format.binary64.exponentBias : ℤ) = 1023 := by decide
  show UnpackedFloat.unpack .binary64 (UnpackedFloat.pack .binary64 (.finite s m e hm)) = _
  simp only [UnpackedFloat.pack, hbias, Nat.cast_ofNat]
  rw [if_pos (by omega)]
  exact unpack_pack_infinity s

theorem unpack_pack_finite {s : Sign} {m : ℕ} {e : ℤ} (hm : 0 < m) (hc : Canonical m e)
    (he : e ≤ 971) : (Float.Model.pack (.finite s m e hm)).unpack = .finite s m e hm := by
  rcases Nat.lt_or_ge m (2 ^ 52) with hlt | hge
  · obtain rfl : e = -1074 := hc.2.2.resolve_left (by omega)
    exact unpack_pack_subnormal hm hlt
  · exact unpack_pack_normal hm hge hc.1 hc.2.1 he

/-- What unpacking can give: a finite double is canonical and below the overflow exponent. -/
def Unpacked : UnpackedFloat → Prop
  | .finite _ m e _ => Canonical m e ∧ e ≤ 971
  | _ => True

theorem unpacked_unpack (b : BitVec Format.binary64.numBits) :
    Unpacked (UnpackedFloat.unpack .binary64 b) := by
  have hM := unpackMantissa_toNat b
  have hE := unpackExponent_toNat b
  have hlt : b.toNat < 2 ^ 64 := b.isLt
  have hbias : (Format.binary64.exponentBias : ℤ) = 1023 := by decide
  unfold UnpackedFloat.unpack
  simp only [hbias, Nat.cast_ofNat]
  split
  · split <;> trivial
  · rename_i hexp
    have hE' := (unpackExponent_eq_allOnes_iff b).not.1 hexp
    split
    · rename_i hexp0
      have hE0 := (unpackExponent_eq_zero_iff b).1 hexp0
      split
      · trivial
      · refine ⟨⟨by omega, by omega, .inr (by omega)⟩, by omega⟩
    · rename_i hexp0
      have hE0 := (unpackExponent_eq_zero_iff b).not.1 hexp0
      have happ : (1#1 ++ unpackMantissa b).toNat = 2 ^ 52 + b.toNat % 2 ^ 52 := by
        simp only [BitVec.toNat_append, hM]
        rw [← Nat.shiftLeft_add_eq_or_of_lt (by omega)]
        simp [Nat.shiftLeft_eq]
      show Canonical (1#1 ++ unpackMantissa b).toNat _ ∧ _
      rw [happ]
      refine ⟨⟨by omega, by omega, .inl (by omega)⟩, by omega⟩

theorem Unpacked.neg {u : UnpackedFloat} (h : Unpacked u) : Unpacked u.neg := by
  rcases u with s | _ | s | ⟨s, m, e, hm⟩
  · trivial
  · trivial
  · trivial
  · exact h

theorem unpack_pack_of_unpacked {u : UnpackedFloat} (hu : Unpacked u) :
    (Float.Model.pack u).unpack = u := by
  rcases u with s | _ | s | ⟨s, m, e, hm⟩
  · exact unpack_pack_infinity s
  · exact unpack_pack_nan
  · exact unpack_pack_zero s
  · exact unpack_pack_finite hm hu.1 hu.2

/-! ## Doubles in the extended rationals -/

/-- A rational in the extended rationals. -/
def extend (q : ℚ) : WithBot (WithTop ℚ) := ((q : WithTop ℚ) : WithBot (WithTop ℚ))

@[simp]
theorem extend_le_extend {a b : ℚ} : extend a ≤ extend b ↔ a ≤ b := by
  simp [extend]

@[simp]
theorem extend_lt_extend {a b : ℚ} : extend a < extend b ↔ a < b := by
  simp [extend]

@[simp]
theorem extend_ne_bot (a : ℚ) : extend a ≠ ⊥ := WithBot.coe_ne_bot

@[simp]
theorem extend_lt_top (a : ℚ) : extend a < ⊤ := WithBot.coe_lt_coe.2 (WithTop.coe_lt_top a)

@[simp]
theorem bot_lt_extend (a : ℚ) : ⊥ < extend a := WithBot.bot_lt_coe _

/-- An unpacked double in the extended rationals: the infinities at the ends, and a NaN, which
the model orders with nothing, at the bottom. -/
def key : UnpackedFloat → WithBot (WithTop ℚ)
  | .infinity .positive => ⊤
  | .infinity .negative => ⊥
  | .notANumber => ⊥
  | .zero _ => extend 0
  | .finite s m e _ => extend (signed s (m * 2 ^ e))

theorem key_of_finite {u : UnpackedFloat} (h : Finite u) : key u = extend (value u) := by
  cases u with
  | zero s => rfl
  | finite s m e hm => rfl
  | infinity s => exact h.elim
  | notANumber => exact h.elim

/-- `x` rounded to a double and read in the extended rationals: from `2^1024` on in magnitude, an
infinity. -/
def roundKey (x : ℚ) : WithBot (WithTop ℚ) :=
  if (2 : ℚ) ^ (1024 : ℤ) ≤ roundDouble x then ⊤
  else if roundDouble x ≤ -(2 : ℚ) ^ (1024 : ℤ) then ⊥ else extend (roundDouble x)

theorem roundKey_mono : Monotone roundKey := by
  intro x y hxy
  have h := roundDouble_mono hxy
  have hp := two_zpow_pos 1024
  unfold roundKey
  split_ifs with hx₁ hx₂ hy₁ hy₂ hy₁ hy₂ <;> simp <;> linarith

theorem roundKey_of_lt {x : ℚ} (h : |roundDouble x| < 2 ^ (1024 : ℤ)) :
    roundKey x = extend (roundDouble x) := by
  obtain ⟨hlo, hhi⟩ := abs_lt.1 h
  unfold roundKey
  rw [if_neg (not_le.2 hhi), if_neg (not_le.2 hlo)]

theorem Canonical.lt_two_zpow {m : ℕ} {e : ℤ} (hc : Canonical m e) (he : e ≤ 971) :
    (m : ℚ) * 2 ^ e < 2 ^ (1024 : ℤ) := by
  have hm : (m : ℚ) < 2 ^ (53 : ℤ) := by exact_mod_cast hc.1
  calc (m : ℚ) * 2 ^ e < 2 ^ (53 : ℤ) * 2 ^ e := mul_lt_mul_of_pos_right hm (two_zpow_pos e)
    _ = 2 ^ (53 + e) := (zpow_add₀ two_ne_zero _ _).symm
    _ ≤ 2 ^ (1024 : ℤ) := zpow_le_zpow_right₀ (by norm_num) (by omega)

theorem Canonical.two_zpow_le {m : ℕ} {e : ℤ} (hc : Canonical m e) (he : 972 ≤ e) :
    (2 : ℚ) ^ (1024 : ℤ) ≤ m * 2 ^ e := by
  have hm : (2 : ℚ) ^ (52 : ℤ) ≤ m := by exact_mod_cast hc.2.2.resolve_right (by omega)
  calc (2 : ℚ) ^ (1024 : ℤ) ≤ 2 ^ (52 + e) := zpow_le_zpow_right₀ (by norm_num) (by omega)
    _ = 2 ^ (52 : ℤ) * 2 ^ e := zpow_add₀ two_ne_zero _ _
    _ ≤ m * 2 ^ e := mul_le_mul_of_nonneg_right hm (two_zpow_pos e).le

/-- Packing a result that holds the rounding of `x` gives `roundKey x`: the result itself below
`2^1024` in magnitude, an infinity of its sign from there on; never a NaN. -/
theorem pack_holds {w : UnpackedFloat} {x : ℚ} (h : Holds x w) :
    (Float.Model.pack w).unpack.isNaN = false ∧ key (Float.Model.pack w).unpack = roundKey x := by
  cases w with
  | zero s =>
    rw [unpack_pack_zero]
    have h0 : roundDouble x = 0 := h
    refine ⟨rfl, ?_⟩
    rw [roundKey_of_lt (by rw [h0, abs_zero]; exact two_zpow_pos _), h0]
    rfl
  | finite s m e hm =>
    obtain ⟨hc, hv⟩ := h
    have hx : (0 : ℚ) ≤ m * 2 ^ e := by positivity
    rcases le_or_gt e 971 with he | he
    · rw [unpack_pack_finite hm hc he]
      refine ⟨rfl, ?_⟩
      have habs : |roundDouble x| < 2 ^ (1024 : ℤ) := by
        rw [← hv]
        cases s <;> simpa [signed, abs_of_nonneg hx] using hc.lt_two_zpow he
      rw [roundKey_of_lt habs, ← hv]
      rfl
    · rw [unpack_pack_overflow hm (by omega)]
      refine ⟨rfl, ?_⟩
      have hbig := hc.two_zpow_le (by omega)
      have hp := two_zpow_pos 1024
      unfold roundKey
      rw [← hv]
      cases s with
      | positive =>
        show (⊤ : WithBot (WithTop ℚ)) = if (2 : ℚ) ^ (1024 : ℤ) ≤ (m : ℚ) * 2 ^ e then ⊤ else _
        rw [if_pos hbig]
      | negative =>
        show (⊥ : WithBot (WithTop ℚ)) = if (2 : ℚ) ^ (1024 : ℤ) ≤ -((m : ℚ) * 2 ^ e) then ⊤
          else if -((m : ℚ) * 2 ^ e) ≤ -(2 : ℚ) ^ (1024 : ℤ) then ⊥ else _
        rw [if_neg (not_le.2 ((neg_nonpos.2 hx).trans_lt hp)), if_pos (neg_le_neg hbig)]
  | infinity s => exact h.elim
  | notANumber => exact h.elim

/-! ## The order of the model -/

theorem Canonical.lt_of_exponent_lt {m n : ℕ} {e f : ℤ} (hm : Canonical m e)
    (hn : Canonical n f) (h : e < f) : (m : ℚ) * 2 ^ e < n * 2 ^ f := by
  have hm' : (m : ℚ) < 2 ^ (53 : ℤ) := by exact_mod_cast hm.1
  have hn' : (2 : ℚ) ^ (52 : ℤ) ≤ n := by
    have := hm.2.1
    exact_mod_cast hn.2.2.resolve_right (by omega)
  calc (m : ℚ) * 2 ^ e < 2 ^ (53 : ℤ) * 2 ^ e := mul_lt_mul_of_pos_right hm' (two_zpow_pos e)
    _ = 2 ^ (53 + e) := (zpow_add₀ two_ne_zero _ _).symm
    _ ≤ 2 ^ (52 + f) := zpow_le_zpow_right₀ (by norm_num) (by omega)
    _ = 2 ^ (52 : ℤ) * 2 ^ f := zpow_add₀ two_ne_zero _ _
    _ ≤ n * 2 ^ f := mul_le_mul_of_nonneg_right hn' (two_zpow_pos f).le

/-- Canonical doubles compare exponent first, then significand, as their values compare. -/
theorem Canonical.compare_eq {m n : ℕ} {e f : ℤ} (hm : Canonical m e) (hn : Canonical n f) :
    (compare e f).then (compare m n) = compare ((m : ℚ) * 2 ^ e) ((n : ℚ) * 2 ^ f) := by
  rcases lt_trichotomy e f with h | rfl | h
  · rw [compare_lt_iff_lt.2 h, compare_lt_iff_lt.2 (hm.lt_of_exponent_lt hn h)]
    rfl
  · have hp := two_zpow_pos e
    rw [compare_eq_iff_eq.2 rfl, Ordering.eq_then]
    rcases lt_trichotomy m n with hmn | rfl | hmn
    · rw [compare_lt_iff_lt.2 hmn,
        compare_lt_iff_lt.2 (mul_lt_mul_of_pos_right (by exact_mod_cast hmn) hp)]
    · rw [compare_eq_iff_eq.2 rfl, compare_eq_iff_eq.2 rfl]
    · rw [compare_gt_iff_gt.2 hmn,
        compare_gt_iff_gt.2 (mul_lt_mul_of_pos_right (by exact_mod_cast hmn) hp)]
  · rw [compare_gt_iff_gt.2 h, compare_gt_iff_gt.2 (hn.lt_of_exponent_lt hm h)]
    rfl

theorem compare_of_trichotomy {α β : Type} [LinearOrder α] [LinearOrder β] {a b : α} {c d : β}
    (hlt : a < b → c < d) (heq : a = b → c = d) (hgt : b < a → d < c) :
    compare a b = compare c d := by
  rcases lt_trichotomy a b with h | h | h
  · rw [compare_lt_iff_lt.2 h, compare_lt_iff_lt.2 (hlt h)]
  · rw [compare_eq_iff_eq.2 h, compare_eq_iff_eq.2 (heq h)]
  · rw [compare_gt_iff_gt.2 h, compare_gt_iff_gt.2 (hgt h)]

@[simp]
theorem compare_extend (a b : ℚ) : compare (extend a) (extend b) = compare a b :=
  compare_of_trichotomy extend_lt_extend.1 (fun h => by simpa [extend] using h) extend_lt_extend.1

@[simp]
theorem compare_bot_extend (a : ℚ) : compare ⊥ (extend a) = .lt :=
  compare_lt_iff_lt.2 (bot_lt_extend a)

@[simp]
theorem compare_extend_bot (a : ℚ) : compare (extend a) ⊥ = .gt :=
  compare_gt_iff_gt.2 (bot_lt_extend a)

@[simp]
theorem compare_extend_top (a : ℚ) : compare (extend a) ⊤ = .lt :=
  compare_lt_iff_lt.2 (extend_lt_top a)

@[simp]
theorem compare_top_extend (a : ℚ) : compare ⊤ (extend a) = .gt :=
  compare_gt_iff_gt.2 (extend_lt_top a)

@[simp]
theorem compare_bot_top : compare (⊥ : WithBot (WithTop ℚ)) ⊤ = .lt :=
  compare_lt_iff_lt.2 (bot_lt_extend 0 |>.trans (extend_lt_top 0))

@[simp]
theorem compare_top_bot : compare (⊤ : WithBot (WithTop ℚ)) ⊥ = .gt :=
  compare_gt_iff_gt.2 (bot_lt_extend 0 |>.trans (extend_lt_top 0))

theorem scaled_pos {m : ℕ} (hm : 0 < m) (e : ℤ) : (0 : ℚ) < m * 2 ^ e := by positivity

theorem compare_neg_neg (a b : ℚ) : compare (-a) (-b) = (compare a b).swap := by
  rcases lt_trichotomy a b with h | rfl | h
  · rw [compare_lt_iff_lt.2 h, compare_gt_iff_gt.2 (neg_lt_neg h)]
    rfl
  · rw [compare_eq_iff_eq.2 rfl, compare_eq_iff_eq.2 rfl]
    rfl
  · rw [compare_gt_iff_gt.2 h, compare_lt_iff_lt.2 (neg_lt_neg h)]
    rfl

/-- Unpacked doubles other than a NaN compare in the model as they lie in the extended
rationals. -/
theorem compare_eq_key {u v : UnpackedFloat} (hu : Unpacked u) (hv : Unpacked v)
    (hnu : u.isNaN = false) (hnv : v.isNaN = false) :
    u.compare v = some (compare (key u) (key v)) := by
  symm
  rcases u with s | _ | s | ⟨s, m, e, hm⟩ <;> rcases v with t | _ | t | ⟨t, n, f, hn⟩ <;>
    (try cases s) <;> (try cases t) <;>
    simp_all [UnpackedFloat.compare, UnpackedFloat.isNaN, key, signed, compare_neg_neg,
      compare_lt_iff_lt, compare_gt_iff_gt, zpow_pos]
  all_goals first
    | rfl
    | exact (hu.1.compare_eq hv.1).symm
    | linarith [scaled_pos hm e, scaled_pos hn f]

end StatementClient.Decimal
