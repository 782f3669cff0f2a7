import CaptionAnimation.Helper.Registry
import CaptionAnimation.Number.Arithmetic

/-! # Numeric helpers

Bounds, extremes and rounding. Booleans are no numbers here. -/
namespace CaptionAnimation.Helper

/-- The number that a helper was given. -/
def number (helper : String) : Value → Except Fault Number
  | .number n => .ok n
  | v => .error (.expectsNumber helper v.typeName)

/-- The numbers of a variadic call: its arguments, or the items of a single list. -/
def numbers (helper : String) (args : List Value) : Except Fault (List Number) :=
  let values := match args with
    | [.list items] | [.tuple items] => items
    | _ => args
  if values.isEmpty then .error (.emptyList helper) else values.mapM (number helper)

/-- The first of two numbers unless the second is smaller. -/
def smaller (a b : Number) : Number := if b.lt a then b else a

/-- The first of two numbers unless the second is greater. -/
def greater (a b : Number) : Number := if a.lt b then b else a

def clamp : List Value → Except Fault Value
  | [value, low, high] => do
    let value ← number "clamp" value
    let low ← number "clamp" low
    let high ← number "clamp" high
    if high.lt low then throw (.crossedBounds "clamp" (← low.text) (← high.text))
    return .number (greater low (smaller high value))
  | args => .error (wrongCount "clamp" ["value", "low", "high"] 0 args.length)

/-- The extreme of a list of numbers under a choice between two. -/
def extreme (helper : String) (choose : Number → Number → Number) (args : List Value) : Except Fault Value := do
  match ← numbers helper args with
  | [] => throw (.emptyList helper)
  | first :: rest => return .number (rest.foldl choose first)

def minimum : List Value → Except Fault Value := extreme "min" smaller

def maximum : List Value → Except Fault Value := extreme "max" greater

def absolute : List Value → Except Fault Value
  | [value] => do return .number (← number "abs" value).abs
  | args => .error (wrongCount "absolute" ["value"] 0 args.length)

/-- Rounds to a number of decimals; with none the result is an integer. -/
def roundTo (value digits : Value) : Except Fault Value := do
  let n ← number "round" value
  match digits with
  | .number (.int places) =>
    let rounded ← n.roundTo places
    if places = 0 then return .int (← rounded.truncate) else return .number rounded
  | _ => throw .digitsNotInteger

def round : List Value → Except Fault Value
  | [value] => roundTo value (.int 0)
  | [value, digits] => roundTo value digits
  | args => .error (wrongCount "round_number" ["value"] 1 args.length)

def floor : List Value → Except Fault Value
  | [value] => do return .int (← (← number "floor" value).floor)
  | args => .error (wrongCount "floor" ["value"] 0 args.length)

def ceil : List Value → Except Fault Value
  | [value] => do return .int (← (← number "ceil" value).ceil)
  | args => .error (wrongCount "ceil" ["value"] 0 args.length)

def between : List Value → Except Fault Value
  | [value, low, high] => do
    let value ← number "between" value
    let low ← number "between" low
    let high ← number "between" high
    return .bool (low.le value && value.le high)
  | args => .error (wrongCount "between" ["value", "low", "high"] 0 args.length)

end CaptionAnimation.Helper
