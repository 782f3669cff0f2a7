import CaptionAnimation.Helper.Numeric
import CaptionAnimation.Value.Field

/-! # List helpers

Counting, adding and picking over lists, mostly for variables that describe a whole transcript. -/
namespace CaptionAnimation.Helper

/-- The list that a helper was given. -/
def items (helper : String) (v : Value) : Except Fault (List Value) :=
  match v.items? with
  | some xs => .ok xs
  | none => .error (.expectsList helper v.typeName)

def count : List Value → Except Fault Value
  | [v] => do return .int (← items "count" v).length
  | args => .error (wrongCount "count" ["items"] 0 args.length)

/-- Adds numbers from left to right, starting at the integer zero. -/
def total (numbers : List Number) : Except Fault Number := numbers.foldlM Number.add (.int 0)

def sum : List Value → Except Fault Value
  | [v] => do
    let values ← items "sum" v
    return .number (← values.foldlM (fun acc x => do acc.add (← number "sum" x)) (Number.int 0))
  | args => .error (wrongCount "total" ["items"] 0 args.length)

def mean : List Value → Except Fault Value
  | [v] => do
    let values ← (← items "mean" v).mapM (number "mean")
    if values.isEmpty then return .null
    return .number (← (← total values).div (.int values.length))
  | args => .error (wrongCount "mean" ["items"] 0 args.length)

/-- The field of every item that has it. -/
def pluckFrom (name : String) : List Value → Except Fault (List Value)
  | [] => .ok []
  | v :: rest => do
    match ← v.field? name with
    | some x => return x :: (← pluckFrom name rest)
    | none => pluckFrom name rest

def pluck : List Value → Except Fault Value
  | [v, .text name] => do return .list (← pluckFrom name (← items "pluck" v))
  | [_, _] => .error .fieldNameNotText
  | args => .error (wrongCount "pluck" ["items", "name"] 0 args.length)

def first : List Value → Except Fault Value
  | [v] => do return (← items "first" v).head?.getD .null
  | args => .error (wrongCount "first" ["items"] 0 args.length)

def last : List Value → Except Fault Value
  | [v] => do return (← items "last" v).getLast?.getD .null
  | args => .error (wrongCount "last" ["items"] 0 args.length)

end CaptionAnimation.Helper
