import CaptionAnimation.Fault
import CaptionAnimation.Number.Notation

/-! # Numbers

A number is an integer of any size or a double. Numbers compare by their exact values, across the two kinds. An
undefined double equals no number, but where data are compared it is the same as itself; it is known by the place it
came from. -/
namespace CaptionAnimation

/-- A place in data: positions from the inside out. -/
abbrev Origin := List Nat

/-- A double as it stands in data. -/
structure Quantity where
  value : Float
  /-- Where an undefined double came from, when that is known. -/
  origin : Option Origin := none

inductive Number where
  | int (n : Int)
  | double (q : Quantity)

/-- The exact value of a number. -/
inductive Exact where
  | undefined
  | infinite (negative : Bool)
  | finite (value : Rat)
deriving DecidableEq

namespace Exact

def ofDouble : Double → Exact
  | .undefined => undefined
  | .infinite negative => infinite negative
  | .finite negative m e =>
    let (num, den) := Double.scale m e
    finite (mkRat (if negative then -num else num) den)

def lt : Exact → Exact → Bool
  | finite p, finite q => p < q
  | infinite true, finite _ => true
  | infinite true, infinite false => true
  | finite _, infinite false => true
  | _, _ => false

/-- Equality of values; an undefined value equals nothing. -/
def eq : Exact → Exact → Bool
  | finite p, finite q => p == q
  | infinite s, infinite t => s == t
  | _, _ => false

def le (a b : Exact) : Bool := lt a b || eq a b

end Exact

namespace Quantity

/-- Whether two undefined doubles came from the same known place. -/
def sameUndefined (p q : Quantity) : Bool :=
  p.value.isNaN && q.value.isNaN && p.origin.isSome && p.origin == q.origin

/-- An undefined double that came from nowhere known comes from this place. -/
def placed (place : Origin) (q : Quantity) : Quantity :=
  if q.value.isNaN && q.origin.isNone then { q with origin := some place } else q

end Quantity

namespace Number

/-- A double that came from nowhere in particular. -/
def float (x : Float) : Number := double ⟨x, none⟩

def exact : Number → Exact
  | int n => .finite n
  | double q => .ofDouble (.ofFloat q.value)

def lt (a b : Number) : Bool := a.exact.lt b.exact

def le (a b : Number) : Bool := a.exact.le b.exact

def eq (a b : Number) : Bool := a.exact.eq b.exact

/-- Sameness of data: equal, or one undefined double. -/
def same (a b : Number) : Bool :=
  match a, b with
  | double p, double q => a.eq b || p.sameUndefined q
  | _, _ => a.eq b

def placed (place : Origin) : Number → Number
  | int n => int n
  | double q => double (q.placed place)

def isZero (a : Number) : Bool := a.eq (int 0)

/-- Neither infinite nor undefined, and no integer beyond the doubles. -/
def isFinite : Number → Bool
  | int n => !(nearestDouble n).isInf
  | double q => q.value.isFinite

/-- The number as a double; a double stays what it is. -/
def toQuantity : Number → Except Fault Quantity
  | double q => .ok q
  | int n =>
    let x := nearestDouble n
    if x.isInf then .error .integerBeyondDouble else .ok { value := x }

def toFloat (n : Number) : Except Fault Float := do return (← n.toQuantity).value

/-- Integers are written in full up to this many digits. -/
def digitLimit : Nat := 4300

def intText (n : Int) : Except Fault String :=
  if n.natAbs < tenTo digitLimit then .ok (toString n) else .error .tooManyDigits

def text : Number → Except Fault String
  | int n => intText n
  | double q => .ok (Notation.float q.value)

def typeName : Number → String
  | int _ => "int"
  | double _ => "float"

end Number
end CaptionAnimation
