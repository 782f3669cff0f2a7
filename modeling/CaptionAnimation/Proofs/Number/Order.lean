import CaptionAnimation.Number.Basic
import Mathlib.Data.Rat.Defs
import Mathlib.Algebra.Order.Ring.Rat

/-! # The order of finite numbers

Finite numbers are ordered as the rational numbers they stand for. -/
namespace CaptionAnimation

/-- The exponent field of a finite double is not the one reserved for infinities and undefined numbers. -/
theorem exponentField_of_isFinite {x : Float} (h : x.isFinite) :
    x.toBits.toNat / twoTo 52 % twoTo 11 ≠ 2047 := by
  intro he
  have hv : @Float.Model.UnpackedFloat.unpackExponent Float.Model.Format.binary64 x.toBits.toBitVec = -1#_ := by
    apply BitVec.eq_of_toNat_eq
    simp only [Float.Model.UnpackedFloat.unpackExponent, BitVec.toNat_cast, BitVec.extractLsb_toNat,
      Nat.shiftRight_eq_div_pow]
    exact he
  have hunpack : x.toModel.unpack.isFinite = false := by
    delta Float.Model.unpack Float.Model.UnpackedFloat.unpack
    rw [show x.toModel.toBits = x.toBits from rfl]
    dsimp only
    rw [if_pos hv]
    split <;> rfl
  exact Bool.false_ne_true (hunpack.symm.trans h)

theorem Exact.ofDouble_of_isFinite {x : Float} (h : x.isFinite) :
    ∃ q, Exact.ofDouble (.ofFloat x) = .finite q := by
  have he := exponentField_of_isFinite h
  simp only [Double.ofFloat, he, if_false]
  split <;> exact ⟨_, rfl⟩

namespace Number

/-- The rational number that a finite number stands for. -/
def toRat (n : Number) : ℚ :=
  match n.exact with
  | .finite q => q
  | _ => 0

theorem exact_of_isFinite {n : Number} (h : n.isFinite) : n.exact = .finite n.toRat := by
  cases n with
  | int i => rfl
  | double q =>
    obtain ⟨r, hr⟩ := Exact.ofDouble_of_isFinite h
    simp only [toRat, exact, hr]

theorem eq_iff_toRat {a b : Number} (ha : a.isFinite) (hb : b.isFinite) :
    a.eq b = true ↔ a.toRat = b.toRat := by
  simp [eq, exact_of_isFinite ha, exact_of_isFinite hb, Exact.eq]

theorem lt_iff_toRat {a b : Number} (ha : a.isFinite) (hb : b.isFinite) :
    a.lt b = true ↔ a.toRat < b.toRat := by
  simp [lt, exact_of_isFinite ha, exact_of_isFinite hb, Exact.lt]

end Number
end CaptionAnimation
