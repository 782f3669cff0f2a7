import CaptionAnimation.Expression.Syntax

/-! # What an expression mentions

The nodes of a tree, the names and calls among them, and the number of clauses of a condition. The walks keep the
parts still to be visited on a stack. -/
namespace CaptionAnimation.Expression

/-- Names in ascending order, each once. -/
def sortedNames (names : List String) : List String :=
  names.eraseDups.mergeSort (fun a b => decide (a ≤ b))

namespace Expr

/-- The nodes below a stack of trees: each tree's root, then its parts from left to right, then the next tree. -/
def nodesOn : List Expr → List Expr
  | [] => []
  | e :: stack => e :: nodesOn (e.children ++ stack)
termination_by stack => sizeAll stack
decreasing_by simp [sizeAll, sizeAll_append, size_eq_children e]

/-- The node and everything below it. -/
def nodes (e : Expr) : List Expr := nodesOn [e]

def nodeCount (e : Expr) : Nat := e.nodes.length

theorem size_pos (e : Expr) : 0 < e.size := by
  rw [size_eq_children]; omega

/-- The clauses of the conditions on a stack. The operands of `&&` and `||` and the operand of `!` are counted on
their own; a conditional counts its test and its larger branch; constants count nothing and all else is one. -/
def clausesOn : List Expr → Nat
  | [] => 0
  | logical _ .and left right :: stack | logical _ .or left right :: stack => clausesOn (left :: right :: stack)
  | prefixed _ .not operand :: stack => clausesOn (operand :: stack)
  | conditional _ test yes no :: stack =>
    clausesOn [test] + max (clausesOn [yes]) (clausesOn [no]) + clausesOn stack
  | literal _ _ :: stack | array _ _ :: stack => clausesOn stack
  | _ :: stack => 1 + clausesOn stack
termination_by stack => sizeAll stack
decreasing_by
  all_goals simp [sizeAll, size]
  all_goals first | omega | exact size_pos _

/-- The specificity of a condition. -/
def clauseCount (e : Expr) : Nat := clausesOn [e]

/-- The name of a name node. -/
def name? : Expr → Option String
  | name _ root => some root
  | _ => none

/-- The names that the expression starts from. -/
def rootNames (e : Expr) : List String := e.nodes.filterMap name?

/-- The variable that a node looks up by a fixed name. -/
def lookedUp? : Expr → Option String
  | member _ (name _ "variables") key _ => some key
  | index _ (name _ "variables") (literal _ (.text key)) _ => some key
  | _ => none

/-- The variables that the expression looks up by a fixed name. -/
def variableNames (e : Expr) : List String := e.nodes.filterMap lookedUp?

/-- The name and argument count of a call node. -/
def call? : Expr → Option (String × Nat)
  | call _ helper args => some (helper, args.length)
  | _ => none

/-- The calls in the expression, each with its argument count. -/
def calls (e : Expr) : List (String × Nat) := e.nodes.filterMap call?

end Expr
end CaptionAnimation.Expression
