import CaptionAnimation.Proofs.Evaluation.Reaching

/-! # The node to blame

Every failure of an expression is the failure of one of its nodes, to which the evaluation comes: the parts that the node
takes its value from have values, and the operation on them is refused. The error quotes the source of that node. -/
namespace CaptionAnimation.Evaluation

open Expression

/-- The operation at a node refuses the values of its parts. -/
inductive Breaks (s : Scope) : Expr → Refusal → Prop where
  | name {pos : Nat} {name : String} {f : Fault} (h : s.context.root name = .error f) :
    Breaks s (.name pos name) (.blame (.refused f))
  | member {pos : Nat} {obj : Expr} {name : String} {guarded : Bool} {v : Value} {r : Refusal}
    (hv : meaning s obj = .ok v) (h : memberOp v name guarded = .error r) :
    Breaks s (.member pos obj name guarded) r
  | index {pos : Nat} {obj key : Expr} {guarded : Bool} {v k : Value} {r : Refusal}
    (hv : meaning s obj = .ok v) (hk : meaning s key = .ok k) (hg : ¬ (guarded = true ∧ v = .null))
    (h : indexOp v k = .error r) : Breaks s (.index pos obj key guarded) r
  | prefixed {pos : Nat} {op : PrefixOp} {operand : Expr} {v : Value} {r : Refusal}
    (hv : meaning s operand = .ok v) (h : prefixOp op v = .error r) : Breaks s (.prefixed pos op operand) r
  | binary {pos : Nat} {op : BinaryOp} {left right : Expr} {v w : Value} {r : Refusal}
    (hv : meaning s left = .ok v) (hw : meaning s right = .ok w) (h : binaryOp op v w = .error r) :
    Breaks s (.binary pos op left right) r
  | unknownHelper {pos : Nat} {name : String} {args : List Expr} (h : s.helpers.find? name = none) :
    Breaks s (.call pos name args) (.blame (.unknownHelper name))
  | wrongArity {pos : Nat} {name : String} {args : List Expr} {helper : Helper}
    (h : s.helpers.find? name = some helper) (ha : helper.accepts args.length = false) :
    Breaks s (.call pos name args) (.blame (.wrongArity name helper.arity args.length))
  | call {pos : Nat} {name : String} {args : List Expr} {helper : Helper} {values : List Value} {f : Fault}
    (h : s.helpers.find? name = some helper) (ha : helper.accepts args.length = true)
    (hv : meanings s args = .ok values) (hf : helper.run values = .error f) :
    Breaks s (.call pos name args) (if Scope.absorbs f then .blame (.refused f) else .fault f)
  | unknown {pos : Nat} : Breaks s (.unknown pos) (.blame .unknownNode)

/-- A failure of a node of `e`. -/
def FailsIn (s : Scope) (e : Expr) (failure : Failure) : Prop :=
  ∃ n ∈ e.nodes, ∃ r, Breaks s n r ∧ s.settle n (.error r) = .error failure

theorem settleCall_error (s : Scope) (e : Expr) (f : Fault) :
    s.settleCall e (.error f) = s.settle e (.error (if Scope.absorbs f then .blame (.refused f) else .fault f)) := by
  unfold Scope.settleCall Scope.settle
  cases ha : Scope.absorbs f <;> simp [ha]

theorem root_eq (s : Scope) (e : Expr) (name : String) :
    s.root e name = s.settle e ((s.context.root name).mapError fun f => .blame (.refused f)) := by
  unfold Scope.root
  cases s.context.root name <;> rfl

/-- A failure comes from a part that the evaluation comes to or from the operation on the parts. -/
inductive FailsFrom (s : Scope) (e : Expr) (failure : Failure) : Prop where
  | part {part : Expr} (h : Enters s e part) (hpart : meaning s part = .error failure)
  | here {r : Refusal} (h : Breaks s e r) (hr : s.settle e (.error r) = .error failure)

/-- The operation at a node fails where it is refused. -/
theorem FailsFrom.of_settle {s : Scope} {e : Expr} {op : Operation} {failure : Failure}
    (hb : ∀ r, op = .error r → Breaks s e r) (h : s.settle e op = .error failure) : FailsFrom s e failure := by
  cases op with
  | ok v => cases h
  | error r => exact .here (hb r rfl) h

/-- What makes a node fail, for each kind of node. -/
theorem failsFrom_of_error {s : Scope} {failure : Failure} (e : Expr) (h : meaning s e = .error failure) :
    FailsFrom s e failure := by
  cases e with
  | literal => cases h
  | name pos name =>
    rw [meaning, root_eq] at h
    refine .of_settle (fun r hr => ?_) h
    cases hc : s.context.root name with
    | ok v => simp [hc, Except.mapError] at hr
    | error f =>
      obtain rfl : Refusal.blame (.refused f) = r := by simpa [hc, Except.mapError] using hr
      exact .name hc
  | array pos items =>
    rw [meaning] at h
    obtain h | ⟨values, -, h⟩ := bind_eq_error_iff.mp h
    · obtain ⟨before, e, after, values, rfl, hbefore, he⟩ := meanings_eq_error_iff.mp h
      exact .part (.item ((evalAll_eq s before).trans hbefore)) he
    · cases h
  | member pos obj name guarded =>
    rw [← bind_memberOp] at h
    obtain h | ⟨v, hv, h⟩ := bind_eq_error_iff.mp h
    · exact .part .object h
    · exact .of_settle (fun r hr => .member hv hr) h
  | index pos obj key guarded =>
    cases hv : meaning s obj with
    | error f =>
      rw [← bind_indexOp, hv] at h
      exact .part .indexed (hv.trans h)
    | ok v =>
      by_cases hg : guarded = true ∧ v = .null
      · -- a guarded index into nothing is null
        obtain ⟨rfl, rfl⟩ := hg
        rw [← bind_indexOp, hv] at h
        cases h
      · rw [meaning_index hv hg] at h
        obtain h | ⟨k, hk, h⟩ := bind_eq_error_iff.mp h
        · exact .part (.key (eval_of_meaning hv) hg) h
        · exact .of_settle (fun r hr => .index hv hk hg hr) h
  | call pos name args =>
    rw [meaning] at h
    split at h
    · next hf => exact .here (.unknownHelper hf) h
    · next helper hf =>
      split at h
      · next ha =>
        obtain h | ⟨values, hv, h⟩ := bind_eq_error_iff.mp h
        · obtain ⟨before, e, after, values, rfl, hbefore, he⟩ := meanings_eq_error_iff.mp h
          exact .part (.argument hf ha ((evalAll_eq s before).trans hbefore)) he
        · cases hr : helper.run values with
          | ok v => rw [hr] at h; cases h
          | error f =>
            rw [hr, settleCall_error] at h
            exact .here (.call hf ha hv hr) h
      · next ha => exact .here (.wrongArity hf (Bool.eq_false_iff.mpr ha)) h
  | prefixed pos op operand =>
    rw [meaning] at h
    obtain h | ⟨v, hv, h⟩ := bind_eq_error_iff.mp h
    · exact .part .operand h
    · exact .of_settle (fun r hr => .prefixed hv hr) h
  | binary pos op left right =>
    rw [meaning] at h
    obtain h | ⟨v, hv, h⟩ := bind_eq_error_iff.mp h
    · exact .part .left h
    · obtain h | ⟨w, hw, h⟩ := bind_eq_error_iff.mp h
      · exact .part (.right (eval_of_meaning hv)) h
      · exact .of_settle (fun r hr => .binary hv hw hr) h
  | logical pos op left right =>
    rw [← bind_needsRight] at h
    obtain h | ⟨v, hv, h⟩ := bind_eq_error_iff.mp h
    · exact .part .first h
    · split at h
      · next hn => exact .part (.second (eval_of_meaning hv) hn) h
      · cases h
  | conditional pos test yes no =>
    rw [meaning] at h
    obtain h | ⟨v, hv, h⟩ := bind_eq_error_iff.mp h
    · exact .part .test h
    · split at h
      · next ht => exact .part (.yes (eval_of_meaning hv) ht) h
      · next ht => exact .part (.no (eval_of_meaning hv) (Bool.eq_false_iff.mpr ht)) h
  | unknown pos => exact .here .unknown h

/-- Every failure is the failure of one node that the evaluation comes to. -/
theorem exists_reaches_of_error {s : Scope} {failure : Failure} {e : Expr} (h : meaning s e = .error failure) :
    ∃ n, Reaches s e n ∧ ∃ r, Breaks s n r ∧ s.settle n (.error r) = .error failure := by
  induction e using Expr.children_induction with
  | step e ih =>
    cases failsFrom_of_error e h with
    | part hpart h =>
      -- the part hands its failure up unchanged
      obtain ⟨n, hn, hbreaks⟩ := ih _ hpart.mem_children h
      exact ⟨n, .head hpart hn, hbreaks⟩
    | here hbreaks hr => exact ⟨e, .refl, _, hbreaks, hr⟩

/-- Every failure is the failure of one node. -/
theorem failsIn_of_error {s : Scope} {failure : Failure} (e : Expr) (h : meaning s e = .error failure) :
    FailsIn s e failure :=
  let ⟨n, hn, hbreaks⟩ := exists_reaches_of_error h
  ⟨n, hn.mem_nodes, hbreaks⟩

/-- A node that breaks has no value. -/
theorem Breaks.meaning_eq {s : Scope} {n : Expr} {r : Refusal} (h : Breaks s n r) :
    meaning s n = s.settle n (.error r) := by
  cases h with
  | name h => rw [meaning, root_eq, h]; rfl
  | member hv h => rw [← bind_memberOp, hv, ← h]; rfl
  | index hv hk hg h => rw [meaning_index hv hg, hk, ← h]; rfl
  | prefixed hv h => rw [meaning, hv, ← h]; rfl
  | binary hv hw h => rw [meaning, hv, hw, ← h]; rfl
  | unknownHelper h => rw [meaning, h]; rfl
  | wrongArity h ha => rw [meaning, h]; simp [ha, Scope.settle]
  | call h ha hv hf =>
    rw [meaning, h]
    simp only [ha, if_true, hv, bind, Except.bind, hf, settleCall_error]
  | unknown => rfl

end CaptionAnimation.Evaluation
