import CaptionAnimation.Proofs.Number.Zero

/-! # Undefined doubles

An undefined double has one pattern of bits and stands for no value. Rounding an integer never gives one, so that a
number that counts as finite is a finite double. -/
namespace CaptionAnimation

open Float.Model UnpackedFloat

theorem toBits_of_isNaN {x : Float} (h : x.isNaN = true) : x.toBits.toBitVec = packedNaN Format.binary64 :=
  (isNaN_unpack_iff_of_valid x.toModel.valid).mp h

theorem Double.ofFloat_of_isNaN {x : Float} (h : x.isNaN = true) : ofFloat x = .undefined := by
  have hbits : x.toBits.toNat = (packedNaN Format.binary64).toNat := congrArg BitVec.toNat (toBits_of_isNaN h)
  unfold ofFloat
  rw [hbits]
  rfl

/-- Only an undefined double has no value, finite or infinite. -/
theorem Double.isNaN_of_ofFloat {x : Float} (h : ofFloat x = .undefined) : x.isNaN = true := by
  have hfields : x.toBits.toNat / twoTo 52 % twoTo 11 = 2047 ∧ x.toBits.toNat % twoTo 52 ≠ 0 := by
    unfold ofFloat at h
    dsimp only at h
    split at h
    · next hfield =>
      split at h
      · cases h
      · next hfraction => exact ⟨hfield, hfraction⟩
    · split at h <;> cases h
  obtain ⟨hfield, hfraction⟩ := hfields
  have hexponent : @unpackExponent Format.binary64 x.toBits.toBitVec = -1#_ := by
    apply BitVec.eq_of_toNat_eq
    simp only [unpackExponent, BitVec.toNat_cast, BitVec.extractLsb_toNat, Nat.shiftRight_eq_div_pow]
    exact hfield
  have hmantissa : @unpackMantissa Format.binary64 x.toBits.toBitVec ≠ 0#52 := by
    intro hz
    have hv := congrArg BitVec.toNat hz
    simp only [unpackMantissa, BitVec.toNat_cast, BitVec.extractLsb_toNat, Nat.shiftRight_eq_div_pow, Nat.pow_zero,
      Nat.div_one] at hv
    exact hfraction hv
  show x.toModel.unpack.isNaN = true
  delta Float.Model.unpack UnpackedFloat.unpack
  rw [show x.toModel.toBits = x.toBits from rfl]
  dsimp only
  rw [if_pos hexponent, if_neg hmantissa]
  rfl

/-- The bits of an undefined double have the greatest exponent field and a fraction. -/
theorem fields_of_isNaN_ofBits {b : UInt64} (h : (Float.ofBits b).isNaN = true) :
    b.toNat / twoTo 52 % twoTo 11 = 2047 ∧ b.toNat % twoTo 52 ≠ 0 := by
  have hpacked : pack Format.binary64 (UnpackedFloat.unpack Format.binary64 b.toBitVec) = packedNaN Format.binary64 :=
    toBits_of_isNaN h
  rw [pack_unpack] at hpacked
  have hnan : @isNaNBits Format.binary64 b.toBitVec = true := by
    split at hpacked
    · assumption
    · rw [hpacked]
      exact isNaNBits_packedNaN
  obtain ⟨hexponent, hmantissa⟩ := of_decide_eq_true hnan
  constructor
  · have hv := congrArg BitVec.toNat hexponent
    simp only [unpackExponent, BitVec.toNat_cast, BitVec.extractLsb_toNat, Nat.shiftRight_eq_div_pow] at hv
    exact hv
  · intro hz
    refine hmantissa (BitVec.eq_of_toNat_eq ?_)
    simp only [unpackMantissa, BitVec.toNat_cast, BitVec.extractLsb_toNat, Nat.shiftRight_eq_div_pow, Nat.pow_zero,
      Nat.div_one]
    exact hz

theorem nearestDouble_isNaN (n : Int) : (nearestDouble n).isNaN = false := by
  rw [Bool.eq_false_iff]
  intro h
  obtain ⟨hexponent, hfraction⟩ := fields_of_isNaN_ofBits h
  have hhigh : Double.nearestBits n.natAbs 1 ≤ 2047 * twoTo 52 := by
    by_cases hn : n.natAbs = 0
    · rw [hn]
      exact Nat.zero_le _
    · exact (nearestBits_one hn).2
  have h11 : twoTo 11 = 2 ^ 11 := rfl
  have h52 : twoTo 52 = 2 ^ 52 := rfl
  have h63 : twoTo 63 = 2 ^ 63 := rfl
  rw [UInt64.toNat_ofNat', h52, h11] at hexponent
  rw [UInt64.toNat_ofNat', h52] at hfraction
  split at hexponent <;> split at hfraction <;> omega

theorem isFinite_of_not_isInf {x : Float} (hnan : x.isNaN = false) (hinf : x.isInf = false) : x.isFinite = true := by
  have hn : x.toModel.unpack.isNaN = false := hnan
  have hi : x.toModel.unpack.isInf = false := hinf
  show x.toModel.unpack.isFinite = true
  cases hu : x.toModel.unpack <;> simp_all [UnpackedFloat.isNaN, UnpackedFloat.isInf, UnpackedFloat.isFinite]

/-- A finite number is a finite double. -/
theorem Number.toFloat_of_isFinite {n : Number} (h : n.isFinite = true) : ∃ x, n.toFloat = .ok x ∧ x.isFinite = true := by
  cases n with
  | double q => exact ⟨q.value, rfl, h⟩
  | int i =>
    have hinf : (nearestDouble i).isInf = false := by simpa [isFinite] using h
    refine ⟨nearestDouble i, ?_, isFinite_of_not_isInf (nearestDouble_isNaN i) hinf⟩
    simp only [toFloat, toQuantity, hinf]
    rfl

end CaptionAnimation
