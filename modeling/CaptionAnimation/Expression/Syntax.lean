import CaptionAnimation.Value.Basic

/-! # Expression trees

The closed syntax of conditions, intensities and variables. A node knows the offset in its source at which it was
written. Operators that no source produces are kept by their spelling, and a literal may be any value. -/
namespace CaptionAnimation.Expression

inductive PrefixOp where
  | not
  | negate
  | plus
  | other (spelling : String)
deriving DecidableEq, Repr

inductive BinaryOp where
  | equal
  | notEqual
  | less
  | lessEqual
  | greater
  | greaterEqual
  | within
  | add
  | subtract
  | multiply
  | divide
  | remainder
  | other (spelling : String)
deriving DecidableEq, Repr

inductive LogicalOp where
  | and
  | or
  | coalesce
  | other (spelling : String)
deriving DecidableEq, Repr

inductive Expr where
  | literal (pos : Nat) (value : Value)
  | array (pos : Nat) (items : List Expr)
  | name (pos : Nat) (name : String)
  | member (pos : Nat) (obj : Expr) (name : String) (guarded : Bool)
  | index (pos : Nat) (obj : Expr) (key : Expr) (guarded : Bool)
  | call (pos : Nat) (name : String) (args : List Expr)
  | prefixed (pos : Nat) (op : PrefixOp) (operand : Expr)
  | binary (pos : Nat) (op : BinaryOp) (left : Expr) (right : Expr)
  | logical (pos : Nat) (op : LogicalOp) (left : Expr) (right : Expr)
  | conditional (pos : Nat) (test : Expr) (yes : Expr) (no : Expr)
  /-- A node of no known form. -/
  | unknown (pos : Nat)

def PrefixOp.spelling : PrefixOp → String
  | not => "!"
  | negate => "-"
  | plus => "+"
  | other s => s

def BinaryOp.spelling : BinaryOp → String
  | equal => "=="
  | notEqual => "!="
  | less => "<"
  | lessEqual => "<="
  | greater => ">"
  | greaterEqual => ">="
  | within => "in"
  | add => "+"
  | subtract => "-"
  | multiply => "*"
  | divide => "/"
  | remainder => "%"
  | other s => s

def LogicalOp.spelling : LogicalOp → String
  | and => "&&"
  | or => "||"
  | coalesce => "??"
  | other s => s

/-- The operator with a given spelling. -/
def PrefixOp.ofSpelling (s : String) : PrefixOp :=
  ([not, negate, plus].find? (·.spelling == s)).getD (other s)

def BinaryOp.ofSpelling (s : String) : BinaryOp :=
  ([equal, notEqual, less, lessEqual, greater, greaterEqual, within, add, subtract, multiply, divide,
    remainder].find? (·.spelling == s)).getD (other s)

def LogicalOp.ofSpelling (s : String) : LogicalOp :=
  ([and, or, coalesce].find? (·.spelling == s)).getD (other s)

namespace Expr

/-- The parts of a node, from left to right. -/
def children : Expr → List Expr
  | literal _ _ | name _ _ | unknown _ => []
  | array _ items => items
  | member _ obj _ _ => [obj]
  | index _ obj key _ => [obj, key]
  | call _ _ args => args
  | prefixed _ _ operand => [operand]
  | binary _ _ left right | logical _ _ left right => [left, right]
  | conditional _ test yes no => [test, yes, no]

mutual

/-- The number of nodes. -/
def size : Expr → Nat
  | literal _ _ | name _ _ | unknown _ => 1
  | array _ items => 1 + sizeAll items
  | member _ obj _ _ => 1 + obj.size
  | index _ obj key _ => 1 + (obj.size + key.size)
  | call _ _ args => 1 + sizeAll args
  | prefixed _ _ operand => 1 + operand.size
  | binary _ _ left right | logical _ _ left right => 1 + (left.size + right.size)
  | conditional _ test yes no => 1 + (test.size + (yes.size + no.size))

def sizeAll : List Expr → Nat
  | [] => 0
  | e :: es => e.size + sizeAll es

end

theorem sizeAll_append (xs ys : List Expr) : sizeAll (xs ++ ys) = sizeAll xs + sizeAll ys := by
  induction xs with
  | nil => simp [sizeAll]
  | cons x xs ih => simp [sizeAll, ih]; omega

theorem size_eq_children (e : Expr) : e.size = 1 + sizeAll e.children := by
  cases e <;> simp [size, children, sizeAll]

end Expr
end CaptionAnimation.Expression
