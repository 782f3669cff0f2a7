import CaptionAnimation.Number.Basic

/-! # Arithmetic

Integers stay integers under addition, subtraction, multiplication and remainder; a double on either side
makes the result a double. Quotients are always doubles. -/
namespace CaptionAnimation.Number

/-- An operation that is exact on integers and rounded on doubles. -/
def combine (onInt : Int → Int → Int) (onFloat : Float → Float → Float) :
    Number → Number → Except Fault Number
  | int a, int b => .ok (int (onInt a b))
  | a, b => do
    let x ← a.toFloat
    let y ← b.toFloat
    return float (onFloat x y)

def add : Number → Number → Except Fault Number := combine (· + ·) (· + ·)

def sub : Number → Number → Except Fault Number := combine (· - ·) (· - ·)

def mul : Number → Number → Except Fault Number := combine (· * ·) (· * ·)

/-- The double nearest to the quotient of two integers. -/
def intDiv (a b : Int) : Except Fault Number :=
  let x := Double.nearest ((a < 0) != (b < 0)) a.natAbs b.natAbs
  if x.isInf then .error .quotientBeyondDouble else .ok (float x)

/-- The quotient, for a divisor other than zero. -/
def div : Number → Number → Except Fault Number
  | int a, int b => intDiv a b
  | a, b => do
    let x ← a.toFloat
    let y ← b.toFloat
    return float (x / y)

/-- The exact remainder of a division toward zero. -/
def truncatedRemainder (x y : Float) : Float :=
  match Double.ofFloat x, Double.ofFloat y with
  | .finite _ _ _, .infinite _ => x
  | .finite s m e, .finite _ n k =>
    if n = 0 then 0.0 / 0.0
    else
      let low := min e k
      let r := (m * twoTo (e - low).toNat) % (n * twoTo (k - low).toNat)
      let (num, den) := Double.scale r low
      Double.nearest s num den
  | _, _ => 0.0 / 0.0

/-- The remainder with the sign of the divisor. -/
def floatMod (x y : Float) : Float :=
  let r := truncatedRemainder x y
  if r.isNaN then r
  else if r == 0.0 then (if (Double.ofFloat y) matches .infinite true | .finite true _ _ then -0.0 else 0.0)
  else if (y < 0.0) != (r < 0.0) then r + y
  else r

/-- The remainder with the sign of the divisor. -/
def mod : Number → Number → Except Fault Number
  | int a, int b => if b = 0 then .error (.divisionByZero false) else .ok (int (a.fmod b))
  | a, b => do
    let x ← a.toFloat
    let y ← b.toFloat
    if y == 0.0 then throw (.divisionByZero true)
    return float (floatMod x y)

def neg : Number → Number
  | int n => int (-n)
  | double q => float (-q.value)

def abs : Number → Number
  | int n => int n.natAbs
  | double q => float q.value.abs

/-- The exact quotient rounded to an integer, half to even. -/
def roundQuotient (num : Int) (den : Nat) : Int :=
  let q := num.fdiv den
  let r := num - q * den
  if 2 * r > den || (2 * r = den && q % 2 = 1) then q + 1 else q

/-- An integer from a double, by a rounding of the exact fraction it stands for. -/
def toInteger (rounding : Int → Nat → Int) : Number → Except Fault Int
  | int n => .ok n
  | double q =>
    match Double.ofFloat q.value with
    | .undefined => .error .undefinedToInteger
    | .infinite _ => .error .infinityToInteger
    | .finite negative m e =>
      let (num, den) := Double.scale m e
      .ok (rounding (if negative then -num else num) den)

def floor : Number → Except Fault Int := toInteger fun num den => num.fdiv den

def ceil : Number → Except Fault Int := toInteger fun num den => -((-num).fdiv den)

def truncate : Number → Except Fault Int := toInteger fun num den => num.tdiv den

/-- An integer rounded to a multiple of `10 ^ places`, half to even. -/
def roundIntTo (n : Int) (places : Nat) : Int :=
  if places > n.natAbs.log2 + 1 then 0
  else roundQuotient n (tenTo places) * tenTo places

/-- A finite double rounded to `places` decimals, half to even on its exact value. -/
def roundDoubleTo (x : Float) (places : Int) : Except Fault Float :=
  match Double.ofFloat x with
  | .finite negative m e =>
    if places > 323 then .ok x
    else if places < -308 then .ok (if negative then -0.0 else 0.0)
    else
      let (num, den) := Double.scale m e
      let (up, down) : Nat × Nat := if 0 ≤ places then (tenTo places.toNat, 1) else (1, tenTo (-places).toNat)
      let rounded := (roundQuotient (num * up) (den * down)).toNat
      let y := Double.nearest negative (rounded * down) up
      if y.isInf then .error .roundedBeyondDouble else .ok y
  | _ => .ok x

/-- A number rounded to `places` decimals. -/
def roundTo : Number → Int → Except Fault Number
  | int n, places => .ok (int (if 0 ≤ places then n else roundIntTo n (-places).toNat))
  | double q, places => float <$> roundDoubleTo q.value places

end CaptionAnimation.Number
