import Mathlib
import StatementClient.Decimal.Nearest

/-!
# A double by its fields

The 64 bits of a double are a sign bit, an 11-bit biased exponent and a 52-bit fraction. The
bits a double is read from give the double back (`Float.ofBits_toBits`): the float model keeps one
bit pattern per value, a NaN included, so reading a valid pattern back and writing it again
changes nothing. From this, a double is the double assembled from its own fields
(`Float.eq_assemble`), and the split of `Binary.ofFloat` describes every finite double exactly
(`Binary.Finite`): a significand below `2^53`, a binary exponent from `-1074` to `971`, a
significand below `2^52` only at the lowest exponent, and a narrow gap below only at the bottom of
a binade above the subnormals.
-/

namespace StatementClient.Decimal

open Float.Model Float.Model.UnpackedFloat

/-! ## Bit patterns -/

theorem packComponents_toNat (s : Sign) (e : BitVec 11) (m : BitVec 52) :
    (packComponents .binary64 s e m).toNat = s.toBitVec.toNat * 2 ^ 63 + e.toNat * 2 ^ 52 + m.toNat := by
  have he := e.isLt
  have hm := m.isLt
  simp only [packComponents, BitVec.toNat_append]
  rw [← Nat.shiftLeft_add_eq_or_of_lt hm, ← Nat.shiftLeft_add_eq_or_of_lt he]
  simp only [Nat.shiftLeft_eq]
  ring

theorem sign_toBitVec_ofBitVec (b : BitVec 1) : (Sign.ofBitVec b).toBitVec = b := by
  unfold Sign.ofBitVec
  split
  · rename_i h
    rw [h]
    rfl
  · rename_i h
    have hb := b.isLt
    have h0 : b.toNat ≠ 0 := fun h' => h (BitVec.eq_of_toNat_eq (by simpa using h'))
    have h1 : b = 1#1 := BitVec.eq_of_toNat_eq (by simp; omega)
    rw [h1]
    rfl

section Fields

variable (b : BitVec Format.binary64.numBits)

theorem unpackSign_toNat : (@unpackSign .binary64 b).toNat = b.toNat / 2 ^ 63 := by
  have hlt : b.toNat < 2 ^ 64 := b.isLt
  simp [unpackSign, BitVec.extractLsb_toNat, Nat.shiftRight_eq_div_pow]
  omega

theorem unpackExponent_toNat : (@unpackExponent .binary64 b).toNat = b.toNat / 2 ^ 52 % 2 ^ 11 := by
  simp [unpackExponent, BitVec.extractLsb_toNat, Nat.shiftRight_eq_div_pow]

theorem unpackMantissa_toNat : (@unpackMantissa .binary64 b).toNat = b.toNat % 2 ^ 52 := by
  simp [unpackMantissa, BitVec.extractLsb_toNat]

theorem unpackExponent_eq_allOnes_iff :
    @unpackExponent .binary64 b = -1#11 ↔ b.toNat / 2 ^ 52 % 2 ^ 11 = 2047 := by
  have hones : (-1#11 : BitVec 11).toNat = 2047 := by decide
  rw [← BitVec.toNat_inj, unpackExponent_toNat, hones]

theorem unpackExponent_eq_zero_iff :
    @unpackExponent .binary64 b = 0#11 ↔ b.toNat / 2 ^ 52 % 2 ^ 11 = 0 := by
  rw [← BitVec.toNat_inj, unpackExponent_toNat, BitVec.toNat_zero]

theorem unpackMantissa_eq_zero_iff : @unpackMantissa .binary64 b = 0#52 ↔ b.toNat % 2 ^ 52 = 0 := by
  rw [← BitVec.toNat_inj, unpackMantissa_toNat, BitVec.toNat_zero]

theorem packComponents_fields :
    packComponents .binary64 (Sign.ofBitVec (@unpackSign .binary64 b)) (unpackExponent b)
      (unpackMantissa b) = b := by
  apply BitVec.eq_of_toNat_eq
  have hlt : b.toNat < 2 ^ 64 := b.isLt
  rw [packComponents_toNat, sign_toBitVec_ofBitVec, unpackSign_toNat, unpackExponent_toNat,
    unpackMantissa_toNat]
  omega

end Fields

theorem pack_unpack {b : BitVec Format.binary64.numBits} (hv : Format.binary64.Valid b) :
    UnpackedFloat.pack .binary64 (UnpackedFloat.unpack .binary64 b) = b := by
  have hM := unpackMantissa_toNat b
  have hlt : b.toNat < 2 ^ 64 := b.isLt
  rw [UnpackedFloat.unpack]
  split
  · rename_i hexp
    split
    · rename_i hman
      have h := packComponents_fields b
      rw [hexp, hman] at h
      exact h
    · rename_i hman
      exact (hv.eq_packedNaN hexp hman).symm
  · rename_i hexp
    have hE' := (unpackExponent_eq_allOnes_iff b).not.1 hexp
    split
    · rename_i hexp0
      have hE0 := (unpackExponent_eq_zero_iff b).1 hexp0
      split
      · rename_i hman
        have h := packComponents_fields b
        rw [hexp0, hman] at h
        exact h
      · rename_i hman
        have hF := (unpackMantissa_eq_zero_iff b).not.1 hman
        have hlog : (unpackMantissa b).toNat.log2 < 52 := by
          rw [Nat.log2_lt (by omega)]
          omega
        apply BitVec.eq_of_toNat_eq
        simp only [UnpackedFloat.pack, unpackExponent_toNat, hE0]
        rw [if_neg (by decide), if_neg (by simp [Format.mantissaBits]; omega),
          packComponents_toNat, sign_toBitVec_ofBitVec, unpackSign_toNat]
        simp only [BitVec.toNat_ofNat, hM]
        omega
    · rename_i hexp0
      have hE0 := (unpackExponent_eq_zero_iff b).not.1 hexp0
      have happ : (1#1 ++ unpackMantissa b).toNat = 2 ^ 52 + b.toNat % 2 ^ 52 := by
        simp only [BitVec.toNat_append, hM]
        rw [← Nat.shiftLeft_add_eq_or_of_lt (by omega)]
        simp [Nat.shiftLeft_eq]
      have hlog : (1#1 ++ unpackMantissa b).toNat.log2 = 52 := by
        rw [happ]
        apply Nat.le_antisymm
        · exact Nat.lt_succ_iff.mp ((Nat.log2_lt (by omega)).mpr (by omega))
        · exact (Nat.le_log2 (by omega)).mpr (by omega)
      apply BitVec.eq_of_toNat_eq
      simp only [UnpackedFloat.pack, unpackExponent_toNat, hlog]
      rw [if_neg (by simp; omega), if_pos (by decide), packComponents_toNat,
        sign_toBitVec_ofBitVec, unpackSign_toNat]
      simp only [BitVec.toNat_ofNat, happ]
      omega

/-- Reading a double's bits back gives the double. -/
theorem Float.ofBits_toBits (x : Float) : Float.ofBits x.toBits = x := by
  obtain ⟨⟨bits, hv⟩⟩ := x
  show Float.ofModel (Float.Model.ofBits bits) = Float.ofModel ⟨bits, hv⟩
  congr 1
  have h : UnpackedFloat.pack .binary64 (UnpackedFloat.unpack .binary64 bits.toBitVec) =
      bits.toBitVec := pack_unpack hv
  simp only [Float.Model.ofBits, Float.Model.pack, h]

theorem Float.eq_of_toBits_eq {x y : Float} (h : x.toBits = y.toBits) : x = y := by
  rw [← Float.ofBits_toBits x, ← Float.ofBits_toBits y, h]

/-! ## The classes of a double -/

section Classes

variable (x : Float)

/-- The unpacked form of a double, by its biased exponent and fraction. -/
theorem unpack_classes :
    (x.toModel.unpack.isNaN = true ↔ x.toBits.toNat / 2 ^ 52 % 2 ^ 11 = 2047 ∧
        x.toBits.toNat % 2 ^ 52 ≠ 0) ∧
      (x.toModel.unpack.isInf = true ↔ x.toBits.toNat / 2 ^ 52 % 2 ^ 11 = 2047 ∧
        x.toBits.toNat % 2 ^ 52 = 0) := by
  have hbits : x.toBits.toNat = x.toModel.toBits.toBitVec.toNat := rfl
  rw [hbits]
  unfold Float.Model.unpack UnpackedFloat.unpack
  simp only
  split
  · rename_i hexp
    have hE := (unpackExponent_eq_allOnes_iff _).1 hexp
    split
    · rename_i hman
      have hM := (unpackMantissa_eq_zero_iff _).1 hman
      exact ⟨iff_of_false (by simp [UnpackedFloat.isNaN]) (by omega), iff_of_true rfl ⟨hE, hM⟩⟩
    · rename_i hman
      have hM := (unpackMantissa_eq_zero_iff _).not.1 hman
      exact ⟨iff_of_true rfl ⟨hE, hM⟩, iff_of_false (by simp [UnpackedFloat.isInf]) (by omega)⟩
  · rename_i hexp
    have hE := (unpackExponent_eq_allOnes_iff _).not.1 hexp
    have hno : ∀ u : UnpackedFloat, u ≠ .notANumber → (∀ s, u ≠ .infinity s) →
        (u.isNaN = true ↔ x.toModel.toBits.toBitVec.toNat / 2 ^ 52 % 2 ^ 11 = 2047 ∧
            x.toModel.toBits.toBitVec.toNat % 2 ^ 52 ≠ 0) ∧
          (u.isInf = true ↔ x.toModel.toBits.toBitVec.toNat / 2 ^ 52 % 2 ^ 11 = 2047 ∧
            x.toModel.toBits.toBitVec.toNat % 2 ^ 52 = 0) := by
      intro u hu hi
      refine ⟨iff_of_false ?_ (by omega), iff_of_false ?_ (by omega)⟩
      · cases u <;> simp_all [UnpackedFloat.isNaN]
      · cases u <;> simp_all [UnpackedFloat.isInf]
    split
    · split <;> exact hno _ (by simp) (by simp)
    · exact hno _ (by simp) (by simp)

theorem Float.isNaN_iff : x.isNaN = true ↔
    x.toBits.toNat / 2 ^ 52 % 2 ^ 11 = 2047 ∧ x.toBits.toNat % 2 ^ 52 ≠ 0 :=
  (unpack_classes x).1

theorem Float.isInf_iff : x.isInf = true ↔
    x.toBits.toNat / 2 ^ 52 % 2 ^ 11 = 2047 ∧ x.toBits.toNat % 2 ^ 52 = 0 :=
  (unpack_classes x).2

theorem Float.biased_lt_of_finite (hnan : x.isNaN = false) (hinf : x.isInf = false) :
    x.toBits.toNat / 2 ^ 52 % 2 ^ 11 < 2047 := by
  have hnan' := (Float.isNaN_iff x).not.1 (by rw [hnan]; exact Bool.false_ne_true)
  have hinf' := (Float.isInf_iff x).not.1 (by rw [hinf]; exact Bool.false_ne_true)
  omega

theorem Float.eq_nan (h : x.isNaN = true) : x = 0.0 / 0.0 := by
  have hnan : (0.0 / 0.0 : Float).isNaN = true := by decide
  have hcanon : ∀ y : Float, y.isNaN = true → y.toModel.toBits.toBitVec = packedNaN .binary64 := by
    intro y hy
    obtain ⟨hE, hM⟩ := (Float.isNaN_iff y).1 hy
    exact y.toModel.valid.eq_packedNaN ((unpackExponent_eq_allOnes_iff _).2 hE)
      ((unpackMantissa_eq_zero_iff _).not.2 hM)
  apply Float.eq_of_toBits_eq
  exact UInt64.toBitVec_inj.mp ((hcanon x h).trans (hcanon _ hnan).symm)

end Classes

/-! ## A double assembled from its split -/

namespace Binary

/-- The biased exponent field of a split double: zero below the normal range. -/
def biased (b : Binary) : Nat :=
  if b.mantissa < 2 ^ 52 then 0 else (b.exponent + 1075).toNat

/-- The fraction field of a split double: the significand without its implicit bit. -/
def fraction (b : Binary) : Nat := b.mantissa % 2 ^ 52

/-- What the split of a finite double can be. -/
structure Finite (b : Binary) : Prop where
  mantissa_lt : b.mantissa < 2 ^ 53
  exponent_ge : -1074 ≤ b.exponent
  exponent_le : b.exponent ≤ 971
  /-- A significand short of 53 bits sits at the lowest exponent. -/
  subnormal : b.mantissa < 2 ^ 52 → b.exponent = -1074
  /-- The gap below is narrow exactly at the bottom of a binade above the subnormals. -/
  narrow : b.narrowBelow = true ↔ b.mantissa = 2 ^ 52 ∧ -1074 < b.exponent

end Binary

/-- The fields of the split of `x`, read off its bits. -/
theorem Binary.ofFloat_fields (x : Float) :
    (Binary.ofFloat x).negative = (x.toBits.toNat / 2 ^ 63 == 1) ∧
      (Binary.ofFloat x).biased = x.toBits.toNat / 2 ^ 52 % 2 ^ 11 ∧
      (Binary.ofFloat x).fraction = x.toBits.toNat % 2 ^ 52 := by
  have hlt : x.toBits.toNat < 2 ^ 64 := x.toBits.toBitVec.isLt
  refine ⟨by simp [Binary.ofFloat], ?_, ?_⟩ <;>
    simp only [Binary.ofFloat, Binary.biased, Binary.fraction, Nat.pow_eq] <;> split_ifs <;> omega

/-- Every double is the double assembled from its sign, biased exponent and fraction. -/
theorem Float.eq_assemble (x : Float) :
    x = assemble (Binary.ofFloat x).negative (Binary.ofFloat x).biased (Binary.ofFloat x).fraction := by
  obtain ⟨hs, hb, hf⟩ := Binary.ofFloat_fields x
  have hlt : x.toBits.toNat < 2 ^ 64 := x.toBits.toBitVec.isLt
  rw [hs, hb, hf]
  conv_lhs => rw [← Float.ofBits_toBits x]
  unfold assemble
  congr 1
  apply UInt64.toNat_inj.mp
  rw [UInt64.toNat_ofNat', Nat.pow_eq, Nat.pow_eq]
  simp only [beq_iff_eq]
  split <;> omega

theorem Float.eq_infinity {x : Float} (h : x.isInf = true) :
    x = infinity (Binary.ofFloat x).negative := by
  obtain ⟨hE, hF⟩ := (Float.isInf_iff x).1 h
  obtain ⟨-, hb, hf⟩ := Binary.ofFloat_fields x
  conv_lhs => rw [Float.eq_assemble x]
  rw [hb, hf, hE, hF]
  rfl

theorem Binary.ofFloat_finite {x : Float} (hnan : x.isNaN = false) (hinf : x.isInf = false) :
    (Binary.ofFloat x).Finite := by
  have hB := Float.biased_lt_of_finite x hnan hinf
  simp only [Binary.ofFloat, Nat.pow_eq]
  constructor <;> dsimp only
  · split_ifs <;> omega
  · split_ifs <;> omega
  · split_ifs <;> omega
  · split_ifs <;> omega
  · split_ifs <;> simp <;> omega

end StatementClient.Decimal
