/-! # Ranges of code points

A character property is given as a list of closed ranges in increasing order. -/
namespace CaptionAnimation.Text

/-- Whether one of the closed ranges holds `n`. The search stops at the first range that begins above `n`. -/
def inRanges : List (Nat × Nat) → Nat → Bool
  | [], _ => false
  | (first, last) :: rest, n => if n < first then false else n ≤ last || inRanges rest n

end CaptionAnimation.Text
