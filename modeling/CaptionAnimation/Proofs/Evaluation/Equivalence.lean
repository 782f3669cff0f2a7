import CaptionAnimation.Proofs.Evaluation.Meaning
import CaptionAnimation.Proofs.Expression.Clauses

/-! # Conditions that may stand for one another

The laws of logic hold of conditions as they are evaluated, though their operands may fail and need not be booleans: a
chain of one operator may be grouped either way, a negation may be moved inside, and a negated test may be dropped. The
value or the error stays the same, and so does the number of clauses that ranks a rule. -/
namespace CaptionAnimation.Evaluation

open Expression

/-! ## Outcomes of logical operators -/

section Outcomes

variable (s : Scope)

theorem ok_bind (v : Value) (f : Value → Outcome) : (Except.ok v : Outcome).bind f = f v := rfl

theorem bind_bind (x : Outcome) (f g : Value → Outcome) : (x.bind f).bind g = x.bind fun v => (f v).bind g := by
  cases x <;> rfl

@[simp]
theorem truthy_bool (b : Bool) : (Value.bool b).truthy = b := rfl

theorem eval_logical (pos : Nat) (op : LogicalOp) (left right : Expr) :
    eval s (.logical pos op left right) =
      (eval s left).bind fun v => if needsRight op v then eval s right else .ok v := by
  simp only [eval_of_meaning rfl]
  exact (bind_needsRight s pos op left right).symm

theorem eval_not (pos : Nat) (e : Expr) :
    eval s (.prefixed pos .not e) = (eval s e).bind fun v => .ok (.bool !v.truthy) := by
  simp only [eval_of_meaning rfl]
  rfl

theorem eval_conditional (pos : Nat) (test yes no : Expr) :
    eval s (.conditional pos test yes no) =
      (eval s test).bind fun v => if v.truthy then eval s yes else eval s no := by
  simp only [eval_of_meaning rfl]
  rfl

/-- A chain of one logical operator may be grouped either way: an operand that is not needed decides for all after
it. -/
theorem eval_logical_assoc (p q p' q' : Nat) (op : LogicalOp) (a b c : Expr) :
    eval s (.logical p op (.logical q op a b) c) = eval s (.logical p' op a (.logical q' op b c)) := by
  simp only [eval_logical, bind_bind]
  congr 1
  funext v
  by_cases h : needsRight op v
  · simp only [if_pos h]
  · simp only [if_neg h, ok_bind]

/-- A negation may be moved to the operands, where the other operator needs its right operand after a negated left one
exactly when this one needs it after the left one as it is. -/
theorem eval_not_logical {op dual : LogicalOp} (h : ∀ v, needsRight dual (.bool !v.truthy) = needsRight op v)
    (p q p' q' r' : Nat) (a b : Expr) :
    eval s (.prefixed p .not (.logical q op a b)) =
      eval s (.logical p' dual (.prefixed q' .not a) (.prefixed r' .not b)) := by
  simp only [eval_logical, eval_not, bind_bind, ok_bind, h]
  congr 1
  funext v
  by_cases hn : needsRight op v
  · simp only [if_pos hn]
  · simp only [if_neg hn, ok_bind]

theorem needsRight_or_not (v : Value) : needsRight .or (.bool !v.truthy) = needsRight .and v := Bool.not_not v.truthy

theorem needsRight_and_not (v : Value) : needsRight .and (.bool !v.truthy) = needsRight .or v := rfl

theorem eval_conditional_not (p q p' : Nat) (a b c : Expr) :
    eval s (.conditional p (.prefixed q .not a) b c) = eval s (.conditional p' a c b) := by
  simp only [eval_conditional, eval_not, bind_bind, ok_bind, truthy_bool]
  congr 1
  funext v
  cases v.truthy <;> rfl

theorem holds_not_not (p q : Nat) (a : Expr) :
    holds (eval s (.prefixed p .not (.prefixed q .not a))) = holds (eval s a) := by
  simp only [eval_not, bind_bind, ok_bind, truthy_bool, Bool.not_not]
  cases eval s a <;> rfl

/-- The text that an error quotes has no say in whether a condition holds. -/
theorem toOption_holds_evaluate (e : Expr) (text : String) :
    (holds (evaluate s e (some text))).toOption = (holds (eval s e)).toOption := by
  unfold evaluate withSource
  split
  · next err herr =>
    rw [herr]
    split <;> rfl
  · rfl

end Outcomes

/-! ## Conditions -/

/-- Two conditions hold alike, whatever texts they are written in, fail with the same error, and count for the same
number of clauses. -/
structure DecidesAs (e e' : Expr) : Prop where
  holds : ∀ s, holds (eval s e) = holds (eval s e')
  matched : ∀ s (text text' : String),
    (Evaluation.holds (evaluate s e (some text))).toOption = (Evaluation.holds (evaluate s e' (some text'))).toOption
  clauses : e.clauseCount = e'.clauseCount

/-- Two conditions that also have the same value. -/
structure Interchangeable (e e' : Expr) : Prop extends DecidesAs e e' where
  outcome : ∀ s, eval s e = eval s e'

theorem decidesAs_of_holds {e e' : Expr} (h : ∀ s, holds (eval s e) = holds (eval s e'))
    (hc : e.clauseCount = e'.clauseCount) : DecidesAs e e' where
  holds := h
  matched s text text' := by rw [toOption_holds_evaluate, toOption_holds_evaluate, h]
  clauses := hc

theorem interchangeable_of_eval {e e' : Expr} (h : ∀ s, eval s e = eval s e') (hc : e.clauseCount = e'.clauseCount) :
    Interchangeable e e' where
  toDecidesAs := decidesAs_of_holds (fun s => by rw [h]) hc
  outcome := h

/-- The laws of negation, of conjunction and disjunction, of defaults and of conditionals, for any operands. -/
theorem interchangeable_forms (p q p' q' r' : Nat) (a b c : Expr) :
    Interchangeable (.prefixed p .not (.logical q .and a b))
      (.logical p' .or (.prefixed q' .not a) (.prefixed r' .not b)) ∧
    Interchangeable (.prefixed p .not (.logical q .or a b))
      (.logical p' .and (.prefixed q' .not a) (.prefixed r' .not b)) ∧
    Interchangeable (.logical p .and (.logical q .and a b) c) (.logical p' .and a (.logical q' .and b c)) ∧
    Interchangeable (.logical p .or (.logical q .or a b) c) (.logical p' .or a (.logical q' .or b c)) ∧
    Interchangeable (.logical p .coalesce (.logical q .coalesce a b) c)
      (.logical p' .coalesce a (.logical q' .coalesce b c)) ∧
    Interchangeable (.conditional p (.prefixed q .not a) b c) (.conditional p' a c b) ∧
    DecidesAs (.prefixed p .not (.prefixed q .not a)) a := by
  refine ⟨?_, ?_, ?_, ?_, ?_, ?_, ?_⟩
  · exact interchangeable_of_eval (fun s => eval_not_logical s needsRight_or_not p q p' q' r' a b) (by simp)
  · exact interchangeable_of_eval (fun s => eval_not_logical s needsRight_and_not p q p' q' r' a b) (by simp)
  · exact interchangeable_of_eval (fun s => eval_logical_assoc s p q p' q' .and a b c) (by simp [Nat.add_assoc])
  · exact interchangeable_of_eval (fun s => eval_logical_assoc s p q p' q' .or a b c) (by simp [Nat.add_assoc])
  · exact interchangeable_of_eval (fun s => eval_logical_assoc s p q p' q' .coalesce a b c) (by simp)
  · exact interchangeable_of_eval (fun s => eval_conditional_not s p q p' a b c) (by simp [Nat.max_comm])
  · exact decidesAs_of_holds (fun s => holds_not_not s p q a) (by simp)

end CaptionAnimation.Evaluation
