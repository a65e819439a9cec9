import Mathlib
import StatementClient.Proofs.DoubleFields
import StatementClient.Json.Number

/-!
# Comparing doubles

Documents compare numbers exactly; a check written on doubles compares them by the floating-point
model. The two agree. Two doubles compare in documents as their unpacked forms do
(`Number.compare?_float`), and the integer zero compares with a double as the double zero does
(`Number.compareIntFloat_zero_eq`), so a double compares with the integer zero as with `0.0`
(`Number.compare?_float_int_zero`). A double is below the integer zero exactly when it is below
`0.0` (`Json.compareBy_float_int_zero`): a NaN is below nothing, and `-0.0` is not below zero.
-/

namespace StatementClient

open Float.Model

namespace Decimal

section Split

variable {x : Float}

theorem Binary.ofFloat_mantissa_of_zero {s : UnpackedFloat.Sign}
    (h : x.toModel.unpack = .zero s) : (Binary.ofFloat x).mantissa = 0 := by
  have hbits : x.toBits.toNat = x.toModel.toBits.toBitVec.toNat := rfl
  unfold Float.Model.unpack UnpackedFloat.unpack at h
  simp only at h
  split at h
  · split at h <;> cases h
  · split at h
    · rename_i hexp
      by_cases hman : @UnpackedFloat.unpackMantissa .binary64 x.toModel.toBits.toBitVec = 0#52
      · simp only [Binary.ofFloat, hbits, Nat.pow_eq]
        rw [if_pos ((unpackExponent_eq_zero_iff _).1 hexp)]
        exact (unpackMantissa_eq_zero_iff _).1 hman
      · rw [dif_neg hman] at h
        cases h
    · cases h

theorem Binary.ofFloat_of_finite {s : UnpackedFloat.Sign} {m : Nat} {e : Int} {hm : 0 < m}
    (h : x.toModel.unpack = .finite s m e hm) :
    ((Binary.ofFloat x).negative = true ↔ s = .negative) ∧ 0 < (Binary.ofFloat x).mantissa := by
  have hS := unpackSign_toNat x.toModel.toBits.toBitVec
  have hbits : x.toBits.toNat = x.toModel.toBits.toBitVec.toNat := rfl
  have hsign1 : x.toBits.toNat / 2 ^ 63 < 2 := by
    have := x.toModel.toBits.toBitVec.isLt
    omega
  have hsign (hs : UnpackedFloat.Sign.ofBitVec
      (@UnpackedFloat.unpackSign .binary64 x.toModel.toBits.toBitVec) = s) :
      (Binary.ofFloat x).negative = true ↔ s = .negative := by
    rw [← hs]
    unfold UnpackedFloat.Sign.ofBitVec
    simp only [Binary.ofFloat, beq_iff_eq, Nat.pow_eq]
    split
    · rename_i h0
      rw [h0, BitVec.toNat_zero] at hS
      simp only [reduceCtorEq, iff_false]
      omega
    · rename_i h0
      have hne : (@UnpackedFloat.unpackSign .binary64 x.toModel.toBits.toBitVec).toNat ≠ 0 :=
        fun h' => h0 (BitVec.eq_of_toNat_eq (by simpa using h'))
      simp only [iff_true]
      omega
  unfold Float.Model.unpack UnpackedFloat.unpack at h
  simp only at h
  split at h
  · split at h <;> cases h
  · split at h
    · rename_i hexp
      by_cases hman : @UnpackedFloat.unpackMantissa .binary64 x.toModel.toBits.toBitVec = 0#52
      · rw [dif_pos hman] at h
        cases h
      · rw [dif_neg hman] at h
        injection h with hs
        refine ⟨hsign hs, ?_⟩
        have hM0 := (unpackMantissa_eq_zero_iff _).not.1 hman
        simp only [Binary.ofFloat, hbits, Nat.pow_eq]
        rw [if_pos ((unpackExponent_eq_zero_iff _).1 hexp)]
        omega
    · rename_i hnz
      injection h with hs
      refine ⟨hsign hs, ?_⟩
      simp only [Binary.ofFloat, hbits, Nat.pow_eq]
      rw [if_neg ((unpackExponent_eq_zero_iff _).not.1 hnz)]
      omega

end Split

end Decimal

namespace Float

variable (a b : Float)

theorem lt_iff_unpack : a < b ↔ a.toModel.unpack.compare b.toModel.unpack = some .lt := by
  show Float.lt a b = true ↔ _
  unfold Float.lt
  rw [decide_eq_true_iff]
  show a.toModel.unpack.lt b.toModel.unpack = true ↔ _
  simp [UnpackedFloat.lt]

theorem le_iff_unpack :
    a ≤ b ↔ (a.toModel.unpack.compare b.toModel.unpack).any Ordering.isLE = true := by
  show Float.le a b = true ↔ _
  unfold Float.le
  rw [decide_eq_true_iff]
  rfl

theorem beq_eq_unpack : (a == b) = (a.toModel.unpack.compare b.toModel.unpack == some .eq) := rfl

end Float

/-- The floating-point model leaves two values unordered exactly when one is a NaN. -/
theorem UnpackedFloat.compare_eq_none_iff (u v : UnpackedFloat) :
    u.compare v = none ↔ u.isNaN = true ∨ v.isNaN = true := by
  rcases u with s | _ | s | ⟨s, m, e, hm⟩ <;> rcases v with t | _ | t | ⟨t, n, f, hn⟩ <;>
    (try cases s) <;> (try cases t) <;> simp [UnpackedFloat.compare, UnpackedFloat.isNaN]

theorem UnpackedFloat.compare_swap (u v : UnpackedFloat) :
    (u.compare v).map Ordering.swap = v.compare u := by
  rcases u with s | _ | s | ⟨s, m, e, hm⟩ <;> rcases v with t | _ | t | ⟨t, n, f, hn⟩ <;>
    (try cases s) <;> (try cases t) <;>
    simp [UnpackedFloat.compare, Ordering.swap_then, Int.compare_swap, Nat.compare_swap] <;> rfl

theorem UnpackedFloat.compare_zero_swap (u : UnpackedFloat) :
    ((UnpackedFloat.zero .positive).compare u).map Ordering.swap = u.compare (.zero .positive) := by
  rcases u with s | _ | s | ⟨s, m, e, hm⟩ <;> (try cases s) <;> rfl

/-- Two doubles compare in documents as the floating-point model compares them. -/
theorem Number.compare?_float (a b : Float) :
    Number.compare? (.float a) (.float b) = a.toModel.unpack.compare b.toModel.unpack := by
  have hnan : (a.isNaN || b.isNaN) = true ↔ a.toModel.unpack.compare b.toModel.unpack = none := by
    rw [UnpackedFloat.compare_eq_none_iff, Bool.or_eq_true]
    rfl
  simp only [Number.compare?]
  split
  · exact (hnan.1 ‹_›).symm
  · rename_i hno
    rcases hc : a.toModel.unpack.compare b.toModel.unpack with _ | o
    · exact absurd (hnan.2 hc) hno
    · have hlt := Float.lt_iff_unpack a b
      rw [hc] at hlt
      cases o <;> simp [hlt, Float.beq_eq_unpack, hc]

theorem Number.compareIntScaled_zero_left (m e : Int) :
    Number.compareIntScaled 0 m e = compare 0 m := by
  unfold Number.compareIntScaled
  split
  · have hp : 0 < Int.pow 2 e.toNat := Int.pow_pos (by decide)
    rcases Int.lt_trichotomy m 0 with hneg | rfl | hpos
    · rw [Std.compare_eq_gt.2 (Int.mul_neg_of_neg_of_pos hneg hp), Std.compare_eq_gt.2 hneg]
    · simp
    · rw [Std.compare_eq_lt.2 (Int.mul_pos hpos hp), Std.compare_eq_lt.2 hpos]
  · simp

theorem Number.compareIntScaled_zero_right (a e : Int) :
    Number.compareIntScaled a 0 e = compare a 0 := by
  unfold Number.compareIntScaled
  split
  · simp
  · have hp : 0 < Int.pow 2 (-e).toNat := Int.pow_pos (by decide)
    rcases Int.lt_trichotomy a 0 with hneg | rfl | hpos
    · rw [Std.compare_eq_lt.2 (Int.mul_neg_of_neg_of_pos hneg hp), Std.compare_eq_lt.2 hneg]
    · simp
    · rw [Std.compare_eq_gt.2 (Int.mul_pos hpos hp), Std.compare_eq_gt.2 hpos]

/-- The integer zero compares with a double as the double zero does. -/
theorem Number.compareIntFloat_zero_eq (x : Float) :
    Number.compareIntFloat 0 x = (UnpackedFloat.zero .positive).compare x.toModel.unpack := by
  have hnan : x.isNaN = x.toModel.unpack.isNaN := rfl
  have hinf : x.isInf = x.toModel.unpack.isInf := rfl
  have hzero : (0 : Float).toModel.unpack = .zero .positive := rfl
  have hpos : x > 0 ↔ (UnpackedFloat.zero .positive).compare x.toModel.unpack = some .lt := by
    rw [gt_iff_lt, Float.lt_iff_unpack, hzero]
  unfold Number.compareIntFloat
  rw [hnan, hinf]
  rcases hU : x.toModel.unpack with s | _ | s | ⟨s, m, e, hm⟩
  · rw [hU] at hpos
    simp only [UnpackedFloat.isNaN, UnpackedFloat.isInf, Bool.false_eq_true, ↓reduceIte]
    cases s with
    | positive => rw [if_pos (hpos.2 rfl)]; rfl
    | negative => rw [if_neg fun h => absurd (hpos.1 h) (by decide)]; rfl
  · rfl
  · have hm0 := Decimal.Binary.ofFloat_mantissa_of_zero hU
    simp only [UnpackedFloat.isNaN, UnpackedFloat.isInf, Bool.false_eq_true, ↓reduceIte,
      Number.exactOf, hm0, Nat.cast_zero, neg_zero, ite_self, Number.compareIntScaled_zero_left]
    cases s <;> rfl
  · obtain ⟨hneg, hmpos⟩ := Decimal.Binary.ofFloat_of_finite hU
    have hmpos' : (0 : Int) < ((Decimal.Binary.ofFloat x).mantissa : Int) := by exact_mod_cast hmpos
    simp only [UnpackedFloat.isNaN, UnpackedFloat.isInf, Bool.false_eq_true, ↓reduceIte,
      Number.exactOf, Number.compareIntScaled_zero_left]
    cases s with
    | negative =>
      rw [if_pos (hneg.2 rfl), Std.compare_eq_gt.2 (Int.neg_neg_of_pos hmpos')]
      rfl
    | positive =>
      have hn : (Decimal.Binary.ofFloat x).negative = false := by
        simpa using hneg.not.2 (by simp)
      rw [if_neg (by simp [hn]), Std.compare_eq_lt.2 hmpos']
      rfl

/-- A double compares with the integer zero as with the double zero. -/
theorem Number.compare?_float_int_zero (x : Float) :
    Number.compare? (.float x) (.int 0) = Number.compare? (.float x) (.float 0.0) := by
  have hzero : (0.0 : Float).toModel.unpack = .zero .positive := rfl
  rw [Number.compare?_float, hzero]
  simp only [Number.compare?, Number.compareIntFloat_zero_eq, UnpackedFloat.compare_zero_swap]

namespace Json

variable (a b x : Float)

/-- A comparison of two doubles, in a document, holds as the floating-point model orders them. -/
theorem compareBy_float (op : Comparison) :
    Json.compareBy op (.float a) (.float b) = .ok (decide (op.Rel a b)) := by
  simp only [Json.compareBy, Json.number?, Number.compare?_float]
  have hswap := UnpackedFloat.compare_swap a.toModel.unpack b.toModel.unpack
  cases op <;> simp only [Comparison.Rel, Float.lt_iff_unpack, Float.le_iff_unpack, ← hswap] <;>
    rcases a.toModel.unpack.compare b.toModel.unpack with _ | o <;> (try cases o) <;> rfl

/-- A double is below the integer zero, in a document, exactly when it is below `0.0`. -/
theorem compareBy_float_int_zero :
    Json.compareBy .lt (.float x) (.int 0) = .ok (decide (x < 0.0)) := by
  rw [show decide (x < 0.0) = decide (Comparison.Rel .lt x 0.0) from rfl, ← compareBy_float]
  simp only [Json.compareBy, Json.number?, Number.compare?_float_int_zero]

end Json

end StatementClient
