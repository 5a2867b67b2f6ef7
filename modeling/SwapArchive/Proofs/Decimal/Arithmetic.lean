import SwapArchive.Proofs.Decimal.Order

/-!
# Floats that stay numbers

Sums of finite floats are numbers, and so are differences of a finite float and a number, and halves
of numbers, however they are rounded. An absolute value has no sign: it is not the negative zero.
-/

namespace SwapArchive.Decimal

open Float.Model UnpackedFloat

section Packing

variable {spec : Format} {u : UnpackedFloat}

theorem unpackSign_packComponents (s : Sign) (e : BitVec spec.exponentBits)
    (m : BitVec spec.mantissaBitsWithoutImplicit) :
    unpackSign (packComponents spec s e m) = s.toBitVec := by
  apply BitVec.eq_of_getLsbD_eq
  intro i hi
  obtain rfl : i = 0 := by omega
  simp [unpackSign, packComponents, BitVec.getLsbD_append, BitVec.getElem_append]

/-- A float is a number unless its exponent is all ones. -/
theorem isNaN_unpack {b : BitVec spec.numBits}
    (h : unpackExponent b ≠ -1#_ ∨ unpackMantissa b = 0#_) :
    (UnpackedFloat.unpack spec b).isNaN = false := by
  unfold UnpackedFloat.unpack
  dsimp only
  split
  · next hExponent =>
    rw [if_pos (h.resolve_left (not_not_intro hExponent))]
    rfl
  · split
    · split <;> rfl
    · rfl

/-- What is packed is a number if it was one. -/
theorem isNaN_unpack_pack (h : u.isNaN = false) :
    (UnpackedFloat.unpack spec (UnpackedFloat.pack spec u)).isNaN = false := by
  apply isNaN_unpack
  have hOnes := spec.he
  -- A NaN has the greatest exponent and a mantissa other than zero: `pack` writes the one or the
  -- other, never both.
  fun_cases UnpackedFloat.pack with
  | case1 => cases h
  | case2 s => exact .inr (by simp [packedInfinity])
  | case3 s => exact .inr (by simp [packedZero])
  | case4 s m e hm biasedExponent hLarge => exact .inr (by simp [packedInfinity])
  | case5 s m e hm actualMantissaBits biasedExponent hSmall hNormal =>
    left
    rw [unpackExponent_packComponents]
    intro hOnes
    have hBits := congrArg BitVec.toNat hOnes
    simp only [BitVec.toNat_ofNat, BitVec.neg_one_eq_allOnes, BitVec.toNat_allOnes] at hBits
    rw [Nat.mod_eq_of_lt (by omega)] at hBits
    omega
  | case6 s m e hm actualMantissaBits biasedExponent hSmall hSubnormal =>
    left
    rw [unpackExponent_packComponents]
    simp [Nat.pos_iff_ne_zero.1 spec.he]

/-- An absolute value is packed without a sign. -/
theorem unpackSign_pack_abs : unpackSign (UnpackedFloat.pack spec u.abs) = 0#1 := by
  have hPositive (e : BitVec spec.exponentBits) (m : BitVec spec.mantissaBitsWithoutImplicit) :
      unpackSign (packComponents spec .positive e m) = 0#1 := unpackSign_packComponents ..
  cases u with
  | finite s m e hm =>
    simp only [UnpackedFloat.abs, UnpackedFloat.pack]
    split
    · exact hPositive ..
    · split <;> exact hPositive ..
  | _ => exact hPositive ..

end Packing

section Operations

variable {spec : Format} {u v : UnpackedFloat}

theorem isNaN_roundWithAccuracy (s : Sign) (m : Nat) (e : Int) (accuracy : Accuracy) :
    (roundWithAccuracy spec s m e accuracy).isNaN = false := by
  unfold roundWithAccuracy
  dsimp only
  split <;> rfl

theorem isNaN_normalize (m e : Int) (s : Sign) :
    (UnpackedFloat.normalize spec m e s).isNaN = false := by
  unfold UnpackedFloat.normalize
  split
  · exact isNaN_roundWithAccuracy ..
  · rfl
  · exact isNaN_roundWithAccuracy ..

theorem isNaN_add (hu : u.isFinite = true) (hv : v.isFinite = true) :
    (UnpackedFloat.add spec u v).isNaN = false := by
  cases u with
  | infinity | notANumber => cases hu
  | zero s =>
    cases v with
    | infinity | notANumber => cases hv
    | zero t => cases s <;> cases t <;> rfl
    | finite => rfl
  | finite =>
    cases v with
    | infinity | notANumber => cases hv
    | zero => rfl
    | finite => exact isNaN_normalize ..

theorem isNaN_sub (hu : u.isFinite = true) (hv : v.isNaN = false) :
    (UnpackedFloat.sub spec u v).isNaN = false := by
  cases u with
  | infinity | notANumber => cases hu
  | zero s =>
    cases v with
    | notANumber => cases hv
    | zero t => cases s <;> cases t <;> rfl
    | infinity | finite => rfl
  | finite =>
    cases v with
    | notANumber => cases hv
    | infinity | zero => rfl
    | finite => exact isNaN_normalize ..

theorem isNaN_div {s : Sign} {m : Nat} {e : Int} {hm : 0 < m} (hu : u.isNaN = false) :
    (UnpackedFloat.div spec u (.finite s m e hm)).isNaN = false := by
  cases u with
  | notANumber => cases hu
  | finite => exact isNaN_roundWithAccuracy ..
  | infinity => rfl
  | zero => rfl

end Operations

variable {x y : Float}

theorem isNaN_of_isFinite (h : x.isFinite = true) : x.isNaN = false := by
  change x.toModel.unpack.isFinite = true at h
  show x.toModel.unpack.isNaN = false
  revert h
  cases x.toModel.unpack <;> simp [UnpackedFloat.isFinite, UnpackedFloat.isNaN]

/-- The mean of two finite floats is a number. -/
theorem isNaN_mean (hx : x.isFinite = true) (hy : y.isFinite = true) :
    ((x + y) / 2.0).isNaN = false := by
  have hTwo : ∃ s m e hm, (2.0 : Float).toModel.unpack = .finite s m e hm := ⟨_, _, _, _, rfl⟩
  obtain ⟨s, m, e, hm, hTwo⟩ := hTwo
  show (Float.Model.pack (UnpackedFloat.div _ (x + y).toModel.unpack
    (2.0 : Float).toModel.unpack)).unpack.isNaN = false
  rw [hTwo]
  exact isNaN_unpack_pack (isNaN_div (isNaN_unpack_pack (isNaN_add hx hy)))

/-- The distance of a finite float from a number is a number. -/
theorem isNaN_distance (hx : x.isFinite = true) (hy : y.isNaN = false) :
    (x - y).abs.isNaN = false := by
  have hSub : (x - y).toModel.unpack.isNaN = false := isNaN_unpack_pack (isNaN_sub hx hy)
  refine isNaN_unpack_pack ?_
  revert hSub
  cases (x - y).toModel.unpack <;> simp [UnpackedFloat.abs, UnpackedFloat.isNaN]

/-- **An absolute value is not the negative zero.** -/
theorem abs_ne_negative_zero (x : Float) : x.abs ≠ -0.0 := by
  intro hAbs
  have hBits : Float.Model.pack x.toModel.unpack.abs = (-0.0 : Float).toModel :=
    congrArg Float.toModel hAbs
  have hNegative : @unpackSign .binary64 (-0.0 : Float).toModel.toBits.toBitVec = 1#1 := by
    decide +kernel
  rw [← hBits] at hNegative
  have hPositive : @unpackSign .binary64
      (Float.Model.pack x.toModel.unpack.abs).toBits.toBitVec = 0#1 := unpackSign_pack_abs
  rw [hPositive] at hNegative
  exact absurd hNegative (by decide)

end SwapArchive.Decimal
