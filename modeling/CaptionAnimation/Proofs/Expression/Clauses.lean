import CaptionAnimation.Expression.Analysis

/-! # Clauses by recursion

The walk with a stack counts the clauses of a condition as recursion on its parts does, so that the clauses of a chain
are those of its parts, whichever way it is grouped. -/
namespace CaptionAnimation.Expression.Expr

theorem clausesOn_append (stack more : List Expr) : clausesOn (stack ++ more) = clausesOn stack + clausesOn more := by
  induction stack using clausesOn.induct with
  | case1 => simp [clausesOn]
  | case2 stack pos left right ih => simpa [clausesOn] using ih
  | case3 stack pos left right ih => simpa [clausesOn] using ih
  | case4 stack pos operand ih => simpa [clausesOn] using ih
  | case5 stack pos test yes no _ _ _ ih =>
    simp only [List.cons_append, clausesOn, ih]
    omega
  | case6 stack pos value ih => simpa [clausesOn] using ih
  | case7 stack pos items ih => simpa [clausesOn] using ih
  | case8 e stack hand hor hnot hconditional hliteral harray ih =>
    rw [List.cons_append, clausesOn, clausesOn, ih]
    · omega
    all_goals assumption

@[simp]
theorem clauseCount_and (pos : Nat) (left right : Expr) :
    (logical pos .and left right).clauseCount = left.clauseCount + right.clauseCount := by
  rw [clauseCount, clausesOn]
  exact clausesOn_append [left] [right]

@[simp]
theorem clauseCount_or (pos : Nat) (left right : Expr) :
    (logical pos .or left right).clauseCount = left.clauseCount + right.clauseCount := by
  rw [clauseCount, clausesOn]
  exact clausesOn_append [left] [right]

@[simp]
theorem clauseCount_coalesce (pos : Nat) (left right : Expr) : (logical pos .coalesce left right).clauseCount = 1 := by
  simp [clauseCount, clausesOn]

@[simp]
theorem clauseCount_not (pos : Nat) (operand : Expr) :
    (prefixed pos .not operand).clauseCount = operand.clauseCount := by
  rw [clauseCount, clausesOn]
  rfl

@[simp]
theorem clauseCount_conditional (pos : Nat) (test yes no : Expr) :
    (conditional pos test yes no).clauseCount = test.clauseCount + max yes.clauseCount no.clauseCount := by
  simp [clauseCount, clausesOn]

end CaptionAnimation.Expression.Expr
