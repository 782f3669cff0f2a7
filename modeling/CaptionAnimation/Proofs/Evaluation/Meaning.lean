import CaptionAnimation.Evaluation.Evaluator

/-! # The meaning of expressions

`meaning` gives the value of a tree by plain recursion on its parts: the left part first, the right part of a logical
operator only when it is needed, and the first failure as the failure of the whole. The evaluator, which walks chains
of logical operators, of binary operators and of accesses in loops, computes the same outcome for every tree. -/
namespace CaptionAnimation.Evaluation

open Expression

mutual

/-- The outcome of a tree by recursion on its parts. -/
def meaning (s : Scope) : Expr → Outcome
  | .literal _ value => .ok value
  | .name pos name => s.root (.name pos name) name
  | .array _ items => do
    let values ← meanings s items
    return .list values
  | .member pos obj name guarded => do
    match ← meaning s obj with
    | .null => if guarded then return .null else s.blame (.member pos obj name guarded) (.readOfNull name)
    | v =>
      match v.field? name with
      | .ok (some found) => return found
      | .ok none =>
        if guarded then return .null else s.blame (.member pos obj name guarded) (.unknownField name v.kind)
      | .error f => throw (.fault f)
  | .index pos obj key guarded => do
    let v ← meaning s obj
    match guarded, v with
    | true, .null => return .null
    | _, _ =>
      let k ← meaning s key
      s.settle (.index pos obj key guarded) (indexOp v k)
  | .call pos name args =>
    match s.helpers.find? name with
    | none => s.blame (.call pos name args) (.unknownHelper name)
    | some helper =>
      if helper.accepts args.length then do
        let values ← meanings s args
        s.settleCall (.call pos name args) (helper.run values)
      else s.blame (.call pos name args) (.wrongArity name helper.arity args.length)
  | .prefixed pos op operand => do
    let v ← meaning s operand
    s.settle (.prefixed pos op operand) (prefixOp op v)
  | .binary pos op left right => do
    let v ← meaning s left
    let w ← meaning s right
    s.settle (.binary pos op left right) (binaryOp op v w)
  | .logical _ .and left right => do
    let v ← meaning s left
    if v.truthy then meaning s right else return v
  | .logical _ .or left right => do
    let v ← meaning s left
    if v.truthy then return v else meaning s right
  | .logical _ _ left right => do
    match ← meaning s left with
    | .null => meaning s right
    | v => return v
  | .conditional _ test yes no => do
    let v ← meaning s test
    if v.truthy then meaning s yes else meaning s no
  | .unknown pos => s.blame (.unknown pos) .unknownNode

/-- The values of trees from left to right, up to the first that fails. -/
def meanings (s : Scope) : List Expr → Except Failure (List Value)
  | [] => .ok []
  | e :: es => do
    let v ← meaning s e
    let vs ← meanings s es
    return v :: vs

end

/-- Whatever chain is being walked, the links that wait for a node are applied to its own value. -/
theorem join_eq (kind : Chain) (current : Option Chain) (links : List Link) {walk : List Link → Outcome}
    {base : Outcome} {link : Link} (h : ∀ links, walk links = applyAll base (link :: links)) :
    kind.join current links walk = applyAll (base.bind link) links := by
  unfold Chain.join
  split
  · rw [h, applyAll_cons]
  · rw [h, applyAll_cons]
    rfl

theorem bind_needsRight (s : Scope) (pos : Nat) (op : LogicalOp) (left right : Expr) :
    ((meaning s left).bind fun v => if needsRight op v then meaning s right else .ok v)
      = meaning s (.logical pos op left right) := by
  cases hl : meaning s left with
  | error f => cases op <;> simp [meaning, hl, bind, Except.bind]
  | ok v =>
    cases op with
    | and => cases ht : v.truthy <;> simp [meaning, hl, bind, Except.bind, needsRight, ht, pure, Except.pure]
    | or => cases ht : v.truthy <;> simp [meaning, hl, bind, Except.bind, needsRight, ht, pure, Except.pure]
    | coalesce => cases v <;> simp [meaning, hl, bind, Except.bind, needsRight, pure, Except.pure]
    | other spelling => cases v <;> simp [meaning, hl, bind, Except.bind, needsRight, pure, Except.pure]

/-- The outcome of a member access to a value that is not null, by what its field is. -/
theorem settle_memberOp (s : Scope) (e : Expr) {v : Value} (hv : v ≠ .null) (name : String) (guarded : Bool) :
    s.settle e (memberOp v name guarded) =
      match v.field? name with
      | .ok (some found) => .ok found
      | .ok none => if guarded then .ok .null else s.blame e (.unknownField name v.kind)
      | .error f => .error (.fault f) := by
  unfold memberOp
  split
  · exact absurd rfl hv
  · unfold fieldOp
    cases v.field? name with
    | error f => rfl
    | ok found =>
      cases found with
      | some w => rfl
      | none => cases guarded <;> rfl

theorem bind_memberOp (s : Scope) (pos : Nat) (obj : Expr) (name : String) (guarded : Bool) :
    ((meaning s obj).bind fun v => s.settle (.member pos obj name guarded) (memberOp v name guarded))
      = meaning s (.member pos obj name guarded) := by
  cases ho : meaning s obj with
  | error f => simp [meaning, ho, bind, Except.bind]
  | ok v =>
    simp only [meaning, ho, bind, Except.bind]
    split
    · cases guarded <;> rfl
    · next hv => exact settle_memberOp s _ hv name guarded

theorem bind_indexOp (s : Scope) (pos : Nat) (obj key : Expr) (guarded : Bool) :
    ((meaning s obj).bind fun v =>
        if guarded && (v matches .null) then .ok .null
        else do
          let k ← meaning s key
          s.settle (.index pos obj key guarded) (indexOp v k))
      = meaning s (.index pos obj key guarded) := by
  cases ho : meaning s obj with
  | error f => simp [meaning, ho, bind, Except.bind]
  | ok v => cases guarded <;> cases v <;> simp [meaning, ho, bind, Except.bind, pure, Except.pure]

mutual

/-- The walk with waiting links is the meaning of the node followed by the links. -/
theorem evalThen_eq (s : Scope) : (e : Expr) → (current : Option Chain) → (links : List Link) →
    evalThen s e current links = applyAll (meaning s e) links
  | .literal _ _, _, _ => rfl
  | .name _ _, _, _ => rfl
  | .array _ items, _, links => by
    rw [evalThen, meaning, evalAll_eq s items]
  | .member pos obj name guarded, current, links => by
    rw [evalThen, join_eq _ _ _ fun links => evalThen_eq s obj _ _, bind_memberOp]
  | .index pos obj key guarded, current, links => by
    rw [evalThen, join_eq _ _ _ fun links => evalThen_eq s obj _ _]
    simp only [evalThen_eq s key]
    rw [← bind_indexOp]
    rfl
  | .call pos name args, _, links => by
    rewrite [evalThen, meaning, evalAll_eq s args]
    rfl
  | .prefixed pos op operand, _, links => by
    rw [evalThen, meaning, evalThen_eq s operand]
    rfl
  | .binary pos op left right, current, links => by
    rw [evalThen, join_eq _ _ _ fun links => evalThen_eq s left _ _]
    simp only [evalThen_eq s right]
    rfl
  | .logical pos op left right, current, links => by
    rw [evalThen, join_eq _ _ _ fun links => evalThen_eq s left _ _]
    simp only [evalThen_eq s right]
    rw [← bind_needsRight s pos op left right]
    rfl
  | .conditional _ test yes no, _, links => by
    rw [evalThen, meaning, evalThen_eq s test, evalThen_eq s yes, evalThen_eq s no]
    rfl
  | .unknown _, _, _ => rfl

theorem evalAll_eq (s : Scope) : (es : List Expr) → evalAll s es = meanings s es
  | [] => rfl
  | e :: es => by
    rw [evalAll, meanings, evalThen_eq s e, evalAll_eq s es]
    rfl

end

theorem eval_of_meaning {s : Scope} {e : Expr} {outcome : Outcome} (h : meaning s e = outcome) : eval s e = outcome :=
  (evalThen_eq s e none []).trans h

theorem meaning_of_eval {s : Scope} {e : Expr} {outcome : Outcome} (h : eval s e = outcome) : meaning s e = outcome :=
  (evalThen_eq s e none []).symm.trans h

/-- Walking chains in loops gives every tree the outcome that recursion on its parts gives it. -/
theorem eval_eq_meaning (s : Scope) (e : Expr) : eval s e = meaning s e := by
  rw [eval, evalThen_eq]
  rfl

end CaptionAnimation.Evaluation
