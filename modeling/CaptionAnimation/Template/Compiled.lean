import CaptionAnimation.Expression.Syntax
import CaptionAnimation.Template.Basic
import CaptionAnimation.Template.Issue

/-! # Compiled templates

A template with its expressions read, its rules in order of precedence and its issues collected. Its rules are to be
used only when it has no errors. -/
namespace CaptionAnimation

/-- How much work a template is, by the size of its expressions. -/
inductive Complexity where
  | low
  | medium
  | high
deriving DecidableEq, Repr

namespace Complexity

/-- Below 50 nodes low, below 250 medium. -/
def ofNodes (nodes : Int) : Complexity :=
  if nodes < 50 then low else if nodes < 250 then medium else high

def name : Complexity → String
  | low => "low"
  | medium => "medium"
  | high => "high"

end Complexity

structure CompiledRule where
  rule : Rule
  /-- A rule without a readable condition never matches. -/
  condition : Option Expression.Expr
  intensity : Option Expression.Expr
  priority : Number
  /-- The number of clauses of the condition. -/
  specificity : Nat
  /-- The position among the rules of the template. -/
  index : Nat
  template : String

namespace CompiledRule

def id (r : CompiledRule) : String := r.rule.id

/-- Whether `a` takes precedence over `b`, or is `b`: the higher priority, then the more specific condition, then
the earlier declaration. -/
def precedes (a b : CompiledRule) : Bool :=
  if a.priority.eq b.priority then
    if a.specificity = b.specificity then a.index ≤ b.index else b.specificity < a.specificity
  else b.priority.lt a.priority

/-- Rules in order of precedence. -/
def sorted (rules : List CompiledRule) : List CompiledRule := rules.mergeSort precedes

end CompiledRule

structure CompiledVariable where
  declaration : Variable
  /-- A variable without a readable expression has no value. -/
  expression : Option Expression.Expr
  /-- The position among the variables of the template. -/
  index : Nat

structure CompiledTemplate where
  id : String
  version : Option String
  /-- The enabled rules in order of precedence. -/
  rules : List CompiledRule := []
  /-- The variables in the order of their declaration. -/
  declarations : List CompiledVariable := []
  issues : List Issue := []
  complexity : Complexity := .low

namespace CompiledTemplate

def errors (t : CompiledTemplate) : List Issue := t.issues.filter Issue.isError

def warnings (t : CompiledTemplate) : List Issue := t.issues.filter fun i => !i.isError

def isValid (t : CompiledTemplate) : Bool := t.errors.isEmpty

end CompiledTemplate
end CaptionAnimation
