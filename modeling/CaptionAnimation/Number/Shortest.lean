import CaptionAnimation.Number.Double

/-! # Shortest decimals

The decimal with the fewest digits that reads back as a given double; of several, the nearest to it. -/
namespace CaptionAnimation.Shortest

/-- A decimal `digits * 10 ^ exponent`. -/
structure Decimal where
  digits : Nat
  exponent : Int
deriving DecidableEq, Repr

/-- `num / den` against `digits * 10 ^ exponent`. -/
def compareTo (num den : Nat) (d : Decimal) : Ordering :=
  if 0 ≤ d.exponent then compare num (d.digits * tenTo d.exponent.toNat * den)
  else compare (num * tenTo (-d.exponent).toNat) (d.digits * den)

/-- The greatest multiple of `10 ^ exponent` that is at most `num / den`. -/
def gridBelow (num den : Nat) (exponent : Int) : Nat :=
  if 0 ≤ exponent then num / (den * tenTo exponent.toNat) else num * tenTo (-exponent).toNat / den

/-- The numbers that round to `m * 2 ^ e`: between two fractions over `den`, ends included or not. -/
structure Interval where
  low : Nat
  value : Nat
  high : Nat
  den : Nat
  closed : Bool

/-- Half the way to each neighbour; the lower neighbour of a power of two is nearer. -/
def Interval.around (m : Nat) (e : Int) : Interval :=
  let (factor, den) := Double.scale 1 (e - 2)
  let down := if m = twoTo 52 && e > -1074 then 1 else 2
  { low := (4 * m - down) * factor, value := 4 * m * factor, high := (4 * m + 2) * factor, den
    closed := m % 2 = 0 }

def Interval.holds (i : Interval) (d : Decimal) : Bool :=
  match compareTo i.low i.den d, compareTo i.high i.den d with
  | .lt, .gt => true
  | .eq, .gt => i.closed
  | .lt, .eq => i.closed
  | _, _ => false

/-- Of the two grid points around the value, those that read back; the nearer one when both do. -/
def Interval.pick (i : Interval) (exponent : Int) : Option Decimal :=
  let below := gridBelow i.value i.den exponent
  let down : Decimal := ⟨below, exponent⟩
  let up : Decimal := ⟨below + 1, exponent⟩
  match i.holds down, i.holds up with
  | true, true =>
    match compareTo (2 * i.value) i.den ⟨2 * below + 1, exponent⟩ with
    | .lt => some down
    | .gt => some up
    | .eq => some (if below % 2 = 0 then down else up)
  | true, false => some down
  | false, true => some up
  | false, false => none

/-- The least exponent of ten above `num / den`. -/
def leastAbove (num den : Nat) : Int :=
  let guess := (((num.log2 : Int) - den.log2) * 30103) / 100000
  let candidates := [guess - 1, guess, guess + 1, guess + 2]
  (candidates.find? fun p => compareTo num den ⟨1, p⟩ == .lt).getD (guess + 2)

/-- The first grid with a hit, from `count` digits downwards in fineness; 17 digits always suffice. -/
def Interval.search (i : Interval) (top : Int) : Nat → Nat → Decimal
  | 0, _ => ⟨gridBelow i.value i.den (top - 17), top - 17⟩
  | fuel + 1, count =>
    match i.pick (top - count) with
    | some d => d
    | none => i.search top fuel (count + 1)

/-- Takes the factors of ten out of the digits. -/
def Decimal.trim : Nat → Decimal → Decimal
  | 0, d => d
  | fuel + 1, d =>
    if d.digits % 10 = 0 && d.digits ≠ 0 then Decimal.trim fuel ⟨d.digits / 10, d.exponent + 1⟩ else d

/-- The shortest decimal that reads back as `m * 2 ^ e`, for `m` above zero. -/
def ofDouble (m : Nat) (e : Int) : Decimal :=
  let i := Interval.around m e
  (i.search (leastAbove i.value i.den) 17 1).trim 20

end CaptionAnimation.Shortest
