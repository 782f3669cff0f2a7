import CaptionAnimation.Proofs.Except
import CaptionAnimation.Proofs.Number.Zero

/-! # Faults of arithmetic

Sums, differences and products fail by overflow only, and so do quotients and remainders by a divisor that is not zero.
Rounding fails by overflow or for an undefined number. -/
namespace CaptionAnimation.Number

/-- A fault for which a number is too large. -/
def Overflows (f : Fault) : Prop := f.category = .overflow

/-- An outcome that can only fail by overflow. -/
abbrev OverflowsOnly {α : Type} (x : Except Fault α) : Prop := Meets Overflows (fun _ => True) x

theorem toQuantity_overflows (n : Number) : OverflowsOnly n.toQuantity := by
  unfold toQuantity
  split
  · trivial
  · dsimp only
    split
    · exact rfl
    · trivial

theorem toFloat_overflows (n : Number) : OverflowsOnly n.toFloat := (toQuantity_overflows n).bind fun _ _ => trivial

theorem combine_overflows (onInt : Int → Int → Int) (onFloat : Float → Float → Float) (a b : Number) :
    OverflowsOnly (combine onInt onFloat a b) := by
  unfold combine
  split
  · trivial
  · exact (toFloat_overflows a).bind fun _ _ => (toFloat_overflows b).bind fun _ _ => trivial

theorem div_overflows (a b : Number) : OverflowsOnly (a.div b) := by
  unfold div
  split
  · unfold intDiv
    dsimp only
    split
    · exact rfl
    · trivial
  · exact (toFloat_overflows a).bind fun _ _ => (toFloat_overflows b).bind fun _ _ => trivial

theorem mod_overflows (a : Number) {b : Number} (hb : b.isZero = false) : OverflowsOnly (a.mod b) := by
  unfold mod
  split
  · next m n =>
    split
    · next hn =>
      subst hn
      exact absurd hb (by decide +kernel)
    · trivial
  · refine (toFloat_overflows a).bind fun x _ => ?_
    cases hy : b.toFloat with
    | error f =>
      have hf := toFloat_overflows b
      rw [hy] at hf
      exact hf
    | ok y =>
      show Meets _ _ (if y == 0.0 then _ else _)
      rw [toFloat_ne_zero hb hy]
      trivial

end CaptionAnimation.Number
