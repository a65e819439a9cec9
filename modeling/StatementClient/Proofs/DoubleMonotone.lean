import Mathlib
import StatementClient.Proofs.DoubleArithmetic

/-!
# Doubles in order

A double lies in the extended rationals (`Float.key`): a finite one at its value, the infinities at
the ends, and a NaN, which compares with nothing, at the bottom. There the model's order is the
order of the keys (`Float.le_iff_key`), and a sum is the rounding of the sum of the keys
(`Float.key_add`). Rounding is monotone, so sums, differences and products of doubles are monotone
in their arguments as long as no NaN arises (`Float.add_le_add`, `Float.sub_le_sub_right`,
`Float.mul_le_mul_of_nonneg_left`). That is what bounds sums of delays and clock readings, which
the program computes in doubles and not in the real numbers they stand for.
-/

namespace StatementClient

namespace Decimal

open Float.Model Float.Model.UnpackedFloat

/-! ## Rounding in the extended rationals -/

/-- Rounding in the extended rationals: the ends stay, a rational rounds as a double does. -/
def roundExt : WithBot (WithTop ℚ) → WithBot (WithTop ℚ)
  | none => ⊥
  | some none => ⊤
  | some (some q) => roundKey q

@[simp]
theorem roundExt_bot : roundExt ⊥ = ⊥ := rfl

@[simp]
theorem roundExt_top : roundExt ⊤ = ⊤ := rfl

@[simp]
theorem roundExt_extend (q : ℚ) : roundExt (extend q) = roundKey q := rfl

theorem ext_cases (k : WithBot (WithTop ℚ)) : k = ⊥ ∨ k = ⊤ ∨ ∃ q, k = extend q := by
  rcases k with _ | _ | q
  · exact .inl rfl
  · exact .inr (.inl rfl)
  · exact .inr (.inr ⟨q, rfl⟩)

theorem roundExt_mono : Monotone roundExt := by
  intro a b h
  rcases ext_cases a with rfl | rfl | ⟨q, rfl⟩
  · simp
  · rw [top_le_iff.1 h]
  · rcases ext_cases b with rfl | rfl | ⟨r, rfl⟩
    · exact absurd h (not_le.2 (bot_lt_extend q))
    · exact le_top
    · exact roundKey_mono (extend_le_extend.1 h)

@[simp]
theorem extend_ne_top (a : ℚ) : extend a ≠ ⊤ := (extend_lt_top a).ne

@[simp]
theorem top_add_extend (q : ℚ) : (⊤ : WithBot (WithTop ℚ)) + extend q = ⊤ := rfl

@[simp]
theorem extend_add_top (q : ℚ) : extend q + ⊤ = ⊤ := rfl

@[simp]
theorem top_add_top : (⊤ : WithBot (WithTop ℚ)) + ⊤ = ⊤ := rfl

@[simp]
theorem extend_add_extend (a b : ℚ) : extend a + extend b = extend (a + b) := rfl

theorem roundKey_zero : roundKey 0 = extend 0 := by
  rw [roundKey_of_lt (by simp [roundDouble_zero]), roundDouble_zero]

theorem add_extend_zero (k : WithBot (WithTop ℚ)) : k + extend 0 = k := by
  rcases ext_cases k with rfl | rfl | ⟨q, rfl⟩
  · rfl
  · rfl
  · rw [extend_add_extend, add_zero]

/-! ## Unpacked doubles -/

theorem Unpacked.trichotomy {u : UnpackedFloat} (hu : Unpacked u) :
    u = .notANumber ∨ (∃ s, u = .infinity s) ∨ Finite u := by
  cases u with
  | notANumber => exact .inl rfl
  | infinity s => exact .inr (.inl ⟨s, rfl⟩)
  | zero s => exact .inr (.inr trivial)
  | finite s m e hm => exact .inr (.inr hu.1)

theorem Unpacked.abs_value_lt {u : UnpackedFloat} (hu : Unpacked u) :
    |value u| < 2 ^ (1024 : ℤ) := by
  rcases u with s | _ | s | ⟨s, m, e, hm⟩
  · simp [value]
  · simp [value]
  · simp [value]
  · have hx : (0 : ℚ) ≤ m * 2 ^ e := by positivity
    cases s <;> simpa [value, signed, abs_of_nonneg hx] using hu.1.lt_two_zpow hu.2

theorem roundKey_value {u : UnpackedFloat} (hu : Unpacked u) (hf : Finite u) :
    roundKey (value u) = key u := by
  have hr : roundDouble (value u) = value u := hf.holds.value_eq.symm
  rw [roundKey_of_lt (by rw [hr]; exact hu.abs_value_lt), hr, key_of_finite hf]

theorem roundExt_key {u : UnpackedFloat} (hu : Unpacked u) : roundExt (key u) = key u := by
  rcases hu.trichotomy with rfl | ⟨s, rfl⟩ | hf
  · rfl
  · cases s <;> rfl
  · rw [key_of_finite hf, roundExt_extend, ← key_of_finite hf, roundKey_value hu hf]

theorem add_notANumber_left (v : UnpackedFloat) : add .binary64 .notANumber v = .notANumber := by
  cases v <;> rfl

theorem add_notANumber_right (u : UnpackedFloat) : add .binary64 u .notANumber = .notANumber := by
  rcases u with s | _ | s | ⟨s, m, e, hm⟩ <;> rfl

theorem add_infinity_left (s : Sign) {v : UnpackedFloat} (hv : Finite v) :
    add .binary64 (.infinity s) v = .infinity s := by
  cases v with
  | zero t => rfl
  | finite t n f hn => rfl
  | infinity t => exact hv.elim
  | notANumber => exact hv.elim

theorem add_infinity_right {u : UnpackedFloat} (hu : Finite u) (t : Sign) :
    add .binary64 u (.infinity t) = .infinity t := by
  cases u with
  | zero s => rfl
  | finite s m e hm => rfl
  | infinity s => exact hu.elim
  | notANumber => exact hu.elim

/-- A sum of doubles, read in the extended rationals, is the rounding of the sum of the summands:
a NaN or the lower infinity absorbs everything, the upper infinity everything else. -/
theorem key_pack_add {u v : UnpackedFloat} (hu : Unpacked u) (hv : Unpacked v) :
    key (Float.Model.pack (add .binary64 u v)).unpack = roundExt (key u + key v) := by
  rcases hu.trichotomy with rfl | ⟨s, rfl⟩ | hfu
  · rw [add_notANumber_left, unpack_pack_nan]
    simp [key]
  · rcases hv.trichotomy with rfl | ⟨t, rfl⟩ | hfv
    · rw [add_notANumber_right, unpack_pack_nan]
      simp [key]
    · cases s <;> cases t <;> simp [UnpackedFloat.add, unpack_pack_infinity, unpack_pack_nan, key]
    · rw [add_infinity_left s hfv, unpack_pack_infinity, key_of_finite hfv]
      cases s <;> simp [key]
  · rcases hv.trichotomy with rfl | ⟨t, rfl⟩ | hfv
    · rw [add_notANumber_right, unpack_pack_nan]
      simp [key]
    · rw [add_infinity_right hfu t, unpack_pack_infinity, key_of_finite hfu]
      cases t <;> simp [key]
    · rw [(pack_holds (add_holds hfu hfv)).2, key_of_finite hfu, key_of_finite hfv,
        extend_add_extend, roundExt_extend]

/-- Two doubles neither of which is a NaN or the lower infinity add to no NaN. -/
theorem isNaN_pack_add {u v : UnpackedFloat} (hu : Unpacked u) (hv : Unpacked v)
    (hku : key u ≠ ⊥) (hkv : key v ≠ ⊥) :
    (Float.Model.pack (add .binary64 u v)).unpack.isNaN = false := by
  rcases hu.trichotomy with rfl | ⟨s, rfl⟩ | hfu
  · exact absurd rfl hku
  · cases s
    · exact absurd rfl hku
    rcases hv.trichotomy with rfl | ⟨t, rfl⟩ | hfv
    · exact absurd rfl hkv
    · cases t
      · exact absurd rfl hkv
      · rw [show add .binary64 (.infinity .positive) (.infinity .positive) = .infinity .positive
          from rfl, unpack_pack_infinity]
        rfl
    · rw [add_infinity_left _ hfv, unpack_pack_infinity]
      rfl
  · rcases hv.trichotomy with rfl | ⟨t, rfl⟩ | hfv
    · exact absurd rfl hkv
    · rw [add_infinity_right hfu, unpack_pack_infinity]
      rfl
    · exact (pack_holds (add_holds hfu hfv)).1

end Decimal

/-! ## Doubles -/

namespace Float

open Float.Model

variable {a b c d x y t : Float}

/-- A double in the extended rationals. -/
def key (x : Float) : WithBot (WithTop ℚ) := Decimal.key x.toModel.unpack

/-- The value of a double; zero for the infinities and a NaN. -/
def val (x : Float) : ℚ := Decimal.value x.toModel.unpack

theorem unpacked (x : Float) : Decimal.Unpacked x.toModel.unpack := Decimal.unpacked_unpack _

theorem isFinite_iff : x.isFinite = true ↔ Decimal.Finite x.toModel.unpack := by
  have hu := unpacked x
  revert hu
  show _ → (x.toModel.unpack.isFinite = true ↔ _)
  rcases x.toModel.unpack with s | _ | s | ⟨s, m, e, hm⟩
  · simp [UnpackedFloat.isFinite, Decimal.Finite]
  · simp [UnpackedFloat.isFinite, Decimal.Finite]
  · simp [UnpackedFloat.isFinite, Decimal.Finite]
  · intro hu
    simp [UnpackedFloat.isFinite, Decimal.Finite, hu.1]

theorem finite_of_isFinite (h : x.isFinite = true) : Decimal.Finite x.toModel.unpack :=
  isFinite_iff.1 h

theorem key_of_isFinite (h : x.isFinite = true) : key x = Decimal.extend (val x) :=
  Decimal.key_of_finite (finite_of_isFinite h)

theorem isNaN_of_isFinite (h : x.isFinite = true) : x.isNaN = false := by
  have hf := finite_of_isFinite h
  show x.toModel.unpack.isNaN = false
  revert hf
  rcases x.toModel.unpack with s | _ | s | ⟨s, m, e, hm⟩ <;>
    simp [Decimal.Finite, UnpackedFloat.isNaN]

theorem key_ne_bot_of_isFinite (h : x.isFinite = true) : key x ≠ ⊥ := by
  rw [key_of_isFinite h]
  exact Decimal.extend_ne_bot _

@[simp]
theorem key_zero : key 0.0 = Decimal.extend 0 := rfl

theorem key_zero_ne_bot : key 0.0 ≠ ⊥ := by
  rw [key_zero]
  exact Decimal.extend_ne_bot 0

theorem compare_unpack (hx : x.isNaN = false) (hy : y.isNaN = false) :
    x.toModel.unpack.compare y.toModel.unpack = some (compare (key x) (key y)) :=
  Decimal.compare_eq_key (unpacked x) (unpacked y) hx hy

theorem le_iff_key : x ≤ y ↔ x.isNaN = false ∧ y.isNaN = false ∧ key x ≤ key y := by
  rw [le_iff_unpack]
  rcases hx : x.isNaN with _ | _
  · rcases hy : y.isNaN with _ | _
    · rw [compare_unpack hx hy, Option.any_some, Ordering.isLE_iff_ne_gt, ← ne_eq,
        compare_le_iff_le]
      simp
    · rw [(UnpackedFloat.compare_eq_none_iff _ _).2 (.inr hy)]
      simp
  · rw [(UnpackedFloat.compare_eq_none_iff _ _).2 (.inl hx)]
    simp

theorem lt_iff_key : x < y ↔ x.isNaN = false ∧ y.isNaN = false ∧ key x < key y := by
  rw [lt_iff_unpack]
  rcases hx : x.isNaN with _ | _
  · rcases hy : y.isNaN with _ | _
    · rw [compare_unpack hx hy, Option.some.injEq, compare_lt_iff_lt]
      simp
    · rw [(UnpackedFloat.compare_eq_none_iff _ _).2 (.inr hy)]
      simp
  · rw [(UnpackedFloat.compare_eq_none_iff _ _).2 (.inl hx)]
    simp

theorem le_refl_of_isNaN (hx : x.isNaN = false) : x ≤ x :=
  le_iff_key.2 ⟨hx, hx, le_rfl⟩

theorem le_refl_of_isFinite (hx : x.isFinite = true) : x ≤ x :=
  le_refl_of_isNaN (isNaN_of_isFinite hx)

theorem le_refl_of_ge (h : a ≤ x) : x ≤ x :=
  le_refl_of_isNaN (le_iff_key.1 h).2.1

theorem le_of_lt (h : x < y) : x ≤ y := by
  obtain ⟨hx, hy, hk⟩ := lt_iff_key.1 h
  exact le_iff_key.2 ⟨hx, hy, hk.le⟩

theorem not_lt_self (x : Float) : ¬ x < x := fun h => (lt_iff_key.1 h).2.2.ne rfl

theorem le_trans (hab : a ≤ b) (hbc : b ≤ c) : a ≤ c := by
  obtain ⟨ha, -, h₁⟩ := le_iff_key.1 hab
  obtain ⟨-, hc, h₂⟩ := le_iff_key.1 hbc
  exact le_iff_key.2 ⟨ha, hc, h₁.trans h₂⟩

theorem lt_of_le_of_lt (hab : a ≤ b) (hbc : b < c) : a < c := by
  obtain ⟨ha, -, h₁⟩ := le_iff_key.1 hab
  obtain ⟨-, hc, h₂⟩ := lt_iff_key.1 hbc
  exact lt_iff_key.2 ⟨ha, hc, h₁.trans_lt h₂⟩

theorem le_of_not_lt (hx : x.isNaN = false) (hy : y.isNaN = false) (h : ¬ y < x) : x ≤ y :=
  le_iff_key.2 ⟨hx, hy, not_lt.1 fun hk => h (lt_iff_key.2 ⟨hy, hx, hk⟩)⟩

theorem key_ne_bot_of_le (h : a ≤ x) (ha : key a ≠ ⊥) : key x ≠ ⊥ :=
  fun hx => ha (le_bot_iff.1 (hx ▸ (le_iff_key.1 h).2.2))

theorem key_ne_bot_of_nonneg (h : 0.0 ≤ x) : key x ≠ ⊥ :=
  key_ne_bot_of_le h key_zero_ne_bot

theorem isFinite_of_le_of_le (ha : a.isFinite = true) (hc : c.isFinite = true) (h₁ : a ≤ x)
    (h₂ : x ≤ c) : x.isFinite = true := by
  have hk₁ := (le_iff_key.1 h₁).2.2
  have hk₂ := (le_iff_key.1 h₂).2.2
  rw [key_of_isFinite ha] at hk₁
  rw [key_of_isFinite hc] at hk₂
  have hu := unpacked x
  revert hk₁ hk₂ hu
  show _ → _ → _ → x.toModel.unpack.isFinite = true
  unfold key
  rcases x.toModel.unpack with s | _ | s | ⟨s, m, e, hm⟩
  · cases s <;> simp [Decimal.key]
  · simp [Decimal.key]
  · intros
    rfl
  · intros
    rfl

/-! ## Sums -/

/-- A sum of doubles is the rounding of the sum of their keys. -/
theorem key_add (x y : Float) : key (x + y) = Decimal.roundExt (key x + key y) :=
  Decimal.key_pack_add (unpacked x) (unpacked y)

theorem isNaN_add (hx : key x ≠ ⊥) (hy : key y ≠ ⊥) : (x + y).isNaN = false :=
  Decimal.isNaN_pack_add (unpacked x) (unpacked y) hx hy

/-- Adding is monotone in both summands, as long as neither of the smaller summands is a NaN or
the lower infinity: then no sum is a NaN. -/
theorem add_le_add (hac : a ≤ c) (hbd : b ≤ d) (ha : key a ≠ ⊥) (hb : key b ≠ ⊥) :
    a + b ≤ c + d := by
  have hkac := (le_iff_key.1 hac).2.2
  have hkbd := (le_iff_key.1 hbd).2.2
  refine le_iff_key.2 ⟨isNaN_add ha hb,
    isNaN_add (key_ne_bot_of_le hac ha) (key_ne_bot_of_le hbd hb), ?_⟩
  rw [key_add, key_add]
  exact Decimal.roundExt_mono ((add_le_add_left hkac _).trans (add_le_add_right hkbd _))

theorem add_zero_key (x : Float) : key (x + 0.0) = key x := by
  rw [key_add, key_zero, Decimal.add_extend_zero]
  exact Decimal.roundExt_key (unpacked x)

/-- Adding a double that is not below zero to one at or above a finite double leaves no smaller
sum. -/
theorem le_add_of_ge (ht : t.isFinite = true) (hx : t ≤ x) (hd : 0.0 ≤ d) : x ≤ x + d := by
  have hnx := (le_iff_key.1 hx).2.1
  have hkx := key_ne_bot_of_le hx (key_ne_bot_of_isFinite ht)
  have hle := add_le_add (le_refl_of_isNaN hnx) hd hkx key_zero_ne_bot
  have hself : x ≤ x + 0.0 :=
    le_iff_key.2 ⟨hnx, isNaN_add hkx key_zero_ne_bot, (add_zero_key x).ge⟩
  exact le_trans hself hle

/-! ## Differences -/

theorem toModel_unpack_neg (x : Float) : (-x).toModel.unpack = x.toModel.unpack.neg :=
  Decimal.unpack_pack_of_unpacked (unpacked x).neg

theorem key_neg (h : x.isFinite = true) : key (-x) = Decimal.extend (-val x) := by
  unfold key val
  rw [toModel_unpack_neg, Decimal.key_of_finite (finite_of_isFinite h).neg, Decimal.value_neg]

theorem isFinite_neg (h : x.isFinite = true) : (-x).isFinite = true := by
  rw [isFinite_iff, toModel_unpack_neg]
  exact (finite_of_isFinite h).neg

theorem sub_eq_add_neg (x y : Float) : x - y = x + -y := by
  show Float.ofModel (Float.Model.pack (UnpackedFloat.sub .binary64 x.toModel.unpack
      y.toModel.unpack)) =
    Float.ofModel (Float.Model.pack (UnpackedFloat.add .binary64 x.toModel.unpack
      (-y).toModel.unpack))
  rw [toModel_unpack_neg, Decimal.sub_eq_add_neg]

/-- Subtracting a finite double is monotone. -/
theorem sub_le_sub_right (h : a ≤ c) (ha : key a ≠ ⊥) (ht : t.isFinite = true) :
    a - t ≤ c - t := by
  have hneg := isFinite_neg ht
  rw [sub_eq_add_neg, sub_eq_add_neg]
  exact add_le_add h (le_refl_of_isNaN (isNaN_of_isFinite hneg)) ha (key_ne_bot_of_isFinite hneg)

theorem key_sub_self (h : t.isFinite = true) : key (t - t) = Decimal.extend 0 := by
  rw [sub_eq_add_neg, key_add, key_of_isFinite h, key_neg h, Decimal.extend_add_extend,
    add_neg_cancel, Decimal.roundExt_extend, Decimal.roundKey_zero]

theorem isNaN_sub (ha : key a ≠ ⊥) (ht : t.isFinite = true) : (a - t).isNaN = false := by
  rw [sub_eq_add_neg]
  exact isNaN_add ha (key_ne_bot_of_isFinite (isFinite_neg ht))

theorem zero_le_sub (ht : t.isFinite = true) (h : t ≤ x) : 0.0 ≤ x - t := by
  have hkt := key_ne_bot_of_isFinite ht
  have hself : 0.0 ≤ t - t :=
    le_iff_key.2 ⟨rfl, isNaN_sub hkt ht, by rw [key_sub_self ht, key_zero]⟩
  exact le_trans hself (sub_le_sub_right h hkt ht)

/-! ## Products -/

theorem mul_of_isFinite (hx : x.isFinite = true) (hy : y.isFinite = true) :
    (x * y).isNaN = false ∧ key (x * y) = Decimal.roundKey (val x * val y) :=
  Decimal.pack_holds (Decimal.mul_holds (finite_of_isFinite hx) (finite_of_isFinite hy))

theorem val_nonneg (hb : 0.0 ≤ b) (hbf : b.isFinite = true) : 0 ≤ val b := by
  have hk := (le_iff_key.1 hb).2.2
  rwa [key_zero, key_of_isFinite hbf, Decimal.extend_le_extend] at hk

theorem val_le_val (h : x ≤ y) (hx : x.isFinite = true) (hy : y.isFinite = true) :
    val x ≤ val y := by
  have hk := (le_iff_key.1 h).2.2
  rwa [key_of_isFinite hx, key_of_isFinite hy, Decimal.extend_le_extend] at hk

/-- Multiplying by a finite double not below zero is monotone on finite doubles. -/
theorem mul_le_mul_of_nonneg_left (h : x ≤ y) (hb : 0.0 ≤ b) (hbf : b.isFinite = true)
    (hx : x.isFinite = true) (hy : y.isFinite = true) : b * x ≤ b * y := by
  obtain ⟨hnx, hkx⟩ := mul_of_isFinite hbf hx
  obtain ⟨hny, hky⟩ := mul_of_isFinite hbf hy
  have hv := val_le_val h hx hy
  have hb0 := val_nonneg hb hbf
  refine le_iff_key.2 ⟨hnx, hny, ?_⟩
  rw [hkx, hky]
  exact Decimal.roundKey_mono (by gcongr)

theorem zero_le_mul (hb : 0.0 ≤ b) (hbf : b.isFinite = true) (hx : 0.0 ≤ x)
    (hxf : x.isFinite = true) : 0.0 ≤ b * x := by
  obtain ⟨hn, hk⟩ := mul_of_isFinite hbf hxf
  refine le_iff_key.2 ⟨rfl, hn, ?_⟩
  rw [hk, key_zero, ← Decimal.roundKey_zero]
  exact Decimal.roundKey_mono (mul_nonneg (val_nonneg hb hbf) (val_nonneg hx hxf))

end Float

end StatementClient
