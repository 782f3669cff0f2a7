import CaptionAnimation.Number.Power

/-! # Doubles taken apart

The exact content of a binary64 number, and the double nearest to an exact quotient. -/
namespace CaptionAnimation

/-- What a double stands for: `finite s m e` is `m * 2 ^ e`, negated when `s` holds. -/
inductive Double where
  | undefined
  | infinite (negative : Bool)
  | finite (negative : Bool) (mantissa : Nat) (exponent : Int)
deriving DecidableEq, Repr

namespace Double

/-- The sign bit, the eleven exponent bits and the 52 fraction bits. -/
def ofFloat (x : Float) : Double :=
  let bits := x.toBits.toNat
  let negative := decide (bits / twoTo 63 = 1)
  let field : Nat := bits / twoTo 52 % twoTo 11
  let fraction := bits % twoTo 52
  if field = 2047 then
    if fraction = 0 then infinite negative else undefined
  else if field = 0 then finite negative fraction (-1074)
  else finite negative (twoTo 52 + fraction) ((field : Int) - 1075)

/-- `m * 2 ^ e` as a fraction with a natural numerator and denominator. -/
def scale (m : Nat) (e : Int) : Nat × Nat :=
  if 0 ≤ e then (m * twoTo e.toNat, 1) else (m, twoTo (-e).toNat)

/-- `num / den` is below `2 ^ e`. -/
def quotientBelow (num den : Nat) (e : Int) : Bool :=
  let (a, b) := scale 1 e
  num * b < a * den

/-- The bits of the double nearest to `num / den`; of two nearest doubles the even one. Quotients that
round beyond the largest double give the bits of infinity. -/
def nearestBits (num den : Nat) : Nat :=
  if num = 0 || den = 0 then 0
  else
    let guess : Int := (num.log2 : Int) - den.log2
    let lead := if quotientBelow num den guess then guess - 1 else guess
    let e := max (lead - 52) (-1074)
    let (a, b) := scale 1 e
    let (n, d) := (num * b, den * a)
    let (q, r) := (n / d, n % d)
    let q := if 2 * r > d || (2 * r = d && q % 2 = 1) then q + 1 else q
    min ((e + 1074).toNat * twoTo 52 + q) (2047 * twoTo 52)

/-- The double nearest to `num / den`, with the sign given. -/
def nearest (negative : Bool) (num den : Nat) : Float :=
  Float.ofBits (UInt64.ofNat (nearestBits num den + if negative then twoTo 63 else 0))

end Double

/-- The double nearest to an integer; infinite when the integer is beyond all doubles. -/
def nearestDouble (n : Int) : Float :=
  Double.nearest (n < 0) n.natAbs 1

end CaptionAnimation
