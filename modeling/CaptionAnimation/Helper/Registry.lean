import CaptionAnimation.Value.Basic

/-! # Helpers

The functions that an expression can call, kept in a registry under their names. -/
namespace CaptionAnimation

inductive Helper.Category where
  | math
  | text
  | collection
deriving DecidableEq, Repr

structure Helper where
  name : String
  category : Helper.Category
  /-- The least number of arguments. -/
  least : Int
  /-- The greatest number of arguments; `none` when there is no limit. -/
  most : Option Int
  description : String := ""
  run : List Value → Except Fault Value

namespace Helper

def Category.name : Category → String
  | math => "math"
  | text => "text"
  | collection => "collection"

def Category.ofName? (name : String) : Option Category :=
  [math, text, collection].find? (·.name == name)

/-- Whether the helper can be called with so many arguments. -/
def accepts (h : Helper) (count : Int) : Bool :=
  h.least ≤ count && h.most.all (count ≤ ·)

/-- The accepted argument counts as messages give them. -/
def arity (h : Helper) : String :=
  match h.most with
  | none => "at least " ++ toString h.least
  | some most => if h.least = most then toString most else toString h.least ++ "-" ++ toString most

/-- The fault of a call with a wrong number of arguments, made past the registry's check. -/
def wrongCount (function : String) (required : List String) (optional given : Nat) : Fault :=
  if given < required.length then .missingArguments function (required.drop given)
  else .excessArguments function required.length (required.length + optional) given

end Helper

/-- Helpers in the order of their registration. -/
structure Registry where
  helpers : List Helper := []

namespace Registry

/-- Adds a helper; one of the same name is replaced in its place. -/
def register (r : Registry) (h : Helper) : Registry :=
  if r.helpers.any (·.name == h.name) then ⟨r.helpers.map fun g => if g.name == h.name then h else g⟩
  else ⟨r.helpers ++ [h]⟩

def find? (r : Registry) (name : String) : Option Helper := r.helpers.find? (·.name == name)

/-- The names in ascending order. -/
def names (r : Registry) : List String := (r.helpers.map Helper.name).mergeSort (fun a b => decide (a ≤ b))

def inCategory (r : Registry) (c : Helper.Category) : List Helper := r.helpers.filter (·.category == c)

end Registry
end CaptionAnimation
