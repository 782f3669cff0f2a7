import CaptionAnimation.Number.Arithmetic
import Mathlib

/-! # Zero divisors

A double that equals zero is exactly zero, and the double nearest to an integer other than zero does not equal it. A
divisor that is no zero as a number is therefore none as a double. -/
namespace CaptionAnimation

open Float.Model UnpackedFloat

/-! ## Doubles -/

theorem eq_zero_of_beq {u : UnpackedFloat} {s : Sign} (h : u.beq (.zero s) = true) : ∃ t, u = .zero t := by
  cases u with
  | zero t => exact ⟨t, rfl⟩
  | notANumber => cases h
  | infinity t => cases t <;> cases h
  | finite t m e hm => cases t <;> cases h

theorem unpack_of_beq_zero {x : Float} (h : (x == 0.0) = true) : ∃ s, x.toModel.unpack = .zero s := by
  have hzero : (0.0 : Float).toModel.unpack = .zero .positive := rfl
  have hbeq : x.toModel.unpack.beq (0.0 : Float).toModel.unpack = true := h
  rw [hzero] at hbeq
  exact eq_zero_of_beq hbeq

/-- The fields of the bits of a zero are zero. -/
theorem fields_of_unpack_eq_zero {b : BitVec Format.binary64.numBits} {s : Sign}
    (h : UnpackedFloat.unpack Format.binary64 b = .zero s) : unpackExponent b = 0#_ ∧ unpackMantissa b = 0#_ := by
  delta UnpackedFloat.unpack at h
  dsimp only at h
  split at h
  · split at h <;> cases h
  · split at h
    · next he =>
      split at h
      · next hm => exact ⟨he, hm⟩
      · cases h
    · cases h

/-- A double that equals zero is a zero of one sign or the other. -/
theorem Double.ofFloat_of_beq_zero {x : Float} (h : (x == 0.0) = true) :
    ∃ negative, Double.ofFloat x = .finite negative 0 (-1074) := by
  obtain ⟨s, hs⟩ := unpack_of_beq_zero h
  obtain ⟨he, hm⟩ := fields_of_unpack_eq_zero hs
  have hexponent : x.toBits.toNat / twoTo 52 % twoTo 11 = 0 := by
    have hv := congrArg BitVec.toNat he
    simp only [unpackExponent, BitVec.toNat_cast, BitVec.extractLsb_toNat, Nat.shiftRight_eq_div_pow] at hv
    exact hv
  have hmantissa : x.toBits.toNat % twoTo 52 = 0 := by
    have hv := congrArg BitVec.toNat hm
    simp only [unpackMantissa, BitVec.toNat_cast, BitVec.extractLsb_toNat, Nat.shiftRight_eq_div_pow, Nat.pow_zero,
      Nat.div_one] at hv
    exact hv
  unfold Double.ofFloat
  simp only [hexponent, hmantissa]
  exact ⟨_, rfl⟩

theorem Number.isZero_double {q : Quantity} (h : (q.value == 0.0) = true) : (Number.double q).isZero = true := by
  obtain ⟨negative, hq⟩ := Double.ofFloat_of_beq_zero h
  show (Exact.ofDouble (Double.ofFloat q.value)).eq (.finite 0) = true
  rw [hq]
  cases negative <;> decide +kernel

/-! ## Integers -/

/-- Bits whose exponent field is not zero stay so when they are made canonical. -/
theorem unpackExponent_pack_unpack {b : BitVec Format.binary64.numBits} (h : unpackExponent b ≠ 0#_) :
    unpackExponent (UnpackedFloat.pack Format.binary64 (UnpackedFloat.unpack Format.binary64 b)) ≠ 0#_ := by
  have hlog : (1#1 ++ unpackMantissa b).toNat.log2 + 1 = Format.binary64.mantissaBits := by
    have hm : (unpackMantissa b).toNat < 2 ^ 52 := (unpackMantissa b).isLt
    have hsplit : (1#1 ++ unpackMantissa b).toNat = 2 ^ 52 + (unpackMantissa b).toNat := by
      rw [BitVec.toNat_append, ← Nat.shiftLeft_add_eq_or_of_lt (unpackMantissa b).isLt, Nat.shiftLeft_eq]
      rfl
    have hlead : (1#1 ++ unpackMantissa b).toNat.log2 = 52 := (Nat.log2_eq_iff (by omega)).mpr (by omega)
    rw [hlead]
    rfl
  delta UnpackedFloat.unpack
  dsimp only
  split
  · split
    · rw [UnpackedFloat.pack, packedInfinity, unpackExponent_packComponents]
      decide
    · rw [UnpackedFloat.pack, packedNaN, unpackExponent_packComponents]
      decide
  · rw [UnpackedFloat.pack]
    split
    · rw [packedInfinity, unpackExponent_packComponents]
      decide
    · have hbiased : ((unpackExponent b).toNat - ((Format.binary64.exponentBias : Int) + (52 : Nat))
          + Format.binary64.exponentBias + (52 : Nat)).toNat = (unpackExponent b).toNat := by omega
      show unpackExponent (packComponents _ _ (BitVec.ofNat _ (Int.toNat _)) _) ≠ _
      rw [unpackExponent_packComponents]
      show BitVec.ofNat _ (Int.toNat (_ + _ + ((52 : Nat) : Int))) ≠ _
      rw [hbiased, BitVec.ofNat_toNat, BitVec.setWidth_eq]
      exact h

/-- The bits of the double nearest to an integer other than zero lie from the least normal double to infinity. -/
theorem nearestBits_one {num : Nat} (h : num ≠ 0) :
    twoTo 52 ≤ Double.nearestBits num 1 ∧ Double.nearestBits num 1 ≤ 2047 * twoTo 52 := by
  unfold Double.nearestBits
  rw [if_neg (by simp [h])]
  dsimp only
  refine ⟨Nat.le_min.mpr ⟨?_, ?_⟩, Nat.min_le_right _ _⟩
  · have hlog : Nat.log2 1 = 0 := rfl
    rw [hlog]
    refine Nat.le_add_right_of_le (Nat.le_mul_of_pos_left _ ?_)
    split <;> omega
  · exact Nat.le_mul_of_pos_left _ (by omega)

theorem nearestDouble_ne_zero {n : Int} (h : n ≠ 0) : (nearestDouble n == 0.0) = false := by
  obtain ⟨hlow, hhigh⟩ := nearestBits_one (Int.natAbs_ne_zero.mpr h)
  rw [Bool.eq_false_iff]
  intro hz
  obtain ⟨s, hs⟩ := unpack_of_beq_zero hz
  refine unpackExponent_pack_unpack ?_ (fields_of_unpack_eq_zero hs).1
  intro he
  have hv := congrArg BitVec.toNat he
  simp only [unpackExponent, BitVec.toNat_cast, BitVec.extractLsb_toNat, Nat.shiftRight_eq_div_pow] at hv
  have hbits : (Double.nearestBits n.natAbs 1 + if decide (n < 0) then twoTo 63 else 0) % 2 ^ 64 / 2 ^ 52 % 2 ^ 11 = 0 :=
    hv
  have h52 : twoTo 52 = 2 ^ 52 := rfl
  have h63 : twoTo 63 = 2 ^ 63 := rfl
  split at hbits <;> omega

/-- A divisor that is not zero is not the double zero. -/
theorem Number.toFloat_ne_zero {b : Number} {y : Float} (hb : b.isZero = false) (h : b.toFloat = .ok y) :
    (y == 0.0) = false := by
  cases b with
  | double q =>
    obtain rfl : q.value = y := Except.ok.inj h
    exact Bool.eq_false_iff.mpr fun hz => Bool.eq_false_iff.mp hb (isZero_double hz)
  | int n =>
    have hn : n ≠ 0 := by
      rintro rfl
      exact absurd hb (by decide +kernel)
    unfold toFloat toQuantity at h
    dsimp only at h
    split at h
    · cases h
    · obtain rfl : nearestDouble n = y := Except.ok.inj h
      exact nearestDouble_ne_zero hn

end CaptionAnimation
