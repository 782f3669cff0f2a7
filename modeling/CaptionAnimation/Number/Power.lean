/-! # Powers

The powers of the two bases in which numbers are held and written. -/
namespace CaptionAnimation

def twoTo (n : Nat) : Nat := Nat.pow 2 n

def tenTo (n : Nat) : Nat := Nat.pow 10 n

end CaptionAnimation
