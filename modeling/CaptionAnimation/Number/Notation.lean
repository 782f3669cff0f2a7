import CaptionAnimation.Number.Shortest

/-! # Written doubles

A double is written with the fewest digits that read back: positionally from `0.0001` up to below `10 ^ 16`,
with at least one digit after the point, and otherwise with an exponent of at least two digits. -/
namespace CaptionAnimation.Notation

/-- Where positional notation begins and ends, counted in digits before the point. -/
structure Style where
  least : Int
  most : Int
  exponentWidth : Nat

def style : Style := { least := -3, most := 16, exponentWidth := 2 }

/-- At least `width` characters, filled with zeros on the left. -/
def padded (width : Nat) (cs : List Char) : List Char :=
  List.replicate (width - cs.length) '0' ++ cs

/-- The digits with a point after the first `point` of them. -/
def positional (digits : List Char) (point : Int) : List Char :=
  if point ≤ 0 then '0' :: '.' :: List.replicate (-point).toNat '0' ++ digits
  else
    let before := digits.take point.toNat
    let after := digits.drop point.toNat
    before ++ List.replicate (point.toNat - before.length) '0' ++ '.' :: (if after.isEmpty then ['0'] else after)

/-- One digit before the point, and an exponent with a sign. -/
def exponential (s : Style) (digits : List Char) (point : Int) : List Char :=
  let fraction := digits.drop 1
  let exponent := point - 1
  digits.take 1 ++ (if fraction.isEmpty then [] else '.' :: fraction)
    ++ 'e' :: (if exponent < 0 then '-' else '+') :: padded s.exponentWidth exponent.natAbs.repr.toList

def decimal (s : Style) (d : Shortest.Decimal) : List Char :=
  let digits := d.digits.repr.toList
  let point := d.exponent + digits.length
  if s.least ≤ point && point ≤ s.most then positional digits point else exponential s digits point

/-- The text of a double. -/
def float (x : Float) : String :=
  match Double.ofFloat x with
  | .undefined => "nan"
  | .infinite negative => if negative then "-inf" else "inf"
  | .finite negative m e =>
    let body := if m = 0 then ['0', '.', '0'] else decimal style (Shortest.ofDouble m e)
    String.ofList (if negative then '-' :: body else body)

end CaptionAnimation.Notation
