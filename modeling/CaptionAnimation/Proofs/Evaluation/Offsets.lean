import CaptionAnimation.Proofs.Evaluation.Equivalence
import CaptionAnimation.Proofs.Expression.Lookahead

/-! # Offsets play no part

The offsets of its nodes serve to report syntax errors. What a tree mentions, how many clauses it has, how its text is
written and what it evaluates to do not depend on them, so that trees which differ in offsets only serve alike. -/
namespace CaptionAnimation.Expression

namespace Expr

/-! ## What a tree mentions -/

theorem unplacedAll_eq_map (es : List Expr) : unplacedAll es = es.map unplaced := by
  induction es with
  | nil => rfl
  | cons e es ih => rw [unplacedAll, ih, List.map_cons]

theorem children_unplaced (e : Expr) : e.unplaced.children = e.children.map unplaced := by
  cases e <;> simp [unplaced, children, unplacedAll_eq_map]

theorem nodesOn_unplaced (stack : List Expr) : nodesOn (stack.map unplaced) = (nodesOn stack).map unplaced := by
  induction stack using nodesOn.induct with
  | case1 => simp [nodesOn]
  | case2 e stack ih =>
    rw [List.map_cons, nodesOn, children_unplaced, ← List.map_append, ih, nodesOn, List.map_cons]

theorem nodes_unplaced (e : Expr) : e.unplaced.nodes = e.nodes.map unplaced := nodesOn_unplaced [e]

theorem nodeCount_unplaced (e : Expr) : e.unplaced.nodeCount = e.nodeCount := by
  rw [nodeCount, nodes_unplaced, List.length_map, nodeCount]

/-- What is gathered from the nodes of a tree one by one does not depend on offsets if it does so at no node. -/
theorem filterMap_nodes_unplaced {α : Type} {f : Expr → Option α} (hf : ∀ n : Expr, f n.unplaced = f n) (e : Expr) :
    e.unplaced.nodes.filterMap f = e.nodes.filterMap f := by
  rw [nodes_unplaced, List.filterMap_map]
  exact List.filterMap_congr fun n _ => hf n

theorem rootNames_unplaced (e : Expr) : e.unplaced.rootNames = e.rootNames := by
  refine filterMap_nodes_unplaced (fun n => ?_) e
  cases n <;> rfl

theorem variableNames_unplaced (e : Expr) : e.unplaced.variableNames = e.variableNames := by
  refine filterMap_nodes_unplaced (fun n => ?_) e
  cases n with
  | member _ obj _ _ =>
    cases obj with
    | name _ root => by_cases hroot : root = "variables" <;> simp [unplaced, lookedUp?, hroot]
    | _ => rfl
  | index _ obj key _ =>
    cases obj with
    | name _ root =>
      by_cases hroot : root = "variables"
      · cases key with
        | literal _ v => cases v <;> simp [unplaced, lookedUp?, hroot]
        | _ => simp [unplaced, lookedUp?]
      · cases key <;> simp [unplaced, lookedUp?, hroot]
    | _ => rfl
  | _ => rfl

theorem calls_unplaced (e : Expr) : e.unplaced.calls = e.calls := by
  refine filterMap_nodes_unplaced (fun n => ?_) e
  cases n with
  | call _ _ args => simp [unplaced, call?, unplacedAll_eq_map]
  | _ => rfl

theorem clauseCount_unplaced : (e : Expr) → e.unplaced.clauseCount = e.clauseCount
  | logical _ .and left right => by
    simp only [unplaced, clauseCount_and, clauseCount_unplaced left, clauseCount_unplaced right]
  | logical _ .or left right => by
    simp only [unplaced, clauseCount_or, clauseCount_unplaced left, clauseCount_unplaced right]
  | prefixed _ .not operand => by simp only [unplaced, clauseCount_not, clauseCount_unplaced operand]
  | conditional _ test yes no => by
    simp only [unplaced, clauseCount_conditional, clauseCount_unplaced test, clauseCount_unplaced yes,
      clauseCount_unplaced no]
  | literal _ _ | array _ _ | name _ _ | member _ _ _ _ | index _ _ _ _ | call _ _ _ | binary _ _ _ _ | unknown _
  | logical _ .coalesce _ _ | logical _ (.other _) _ _ | prefixed _ .negate _ | prefixed _ .plus _
  | prefixed _ (.other _) _ => by simp [unplaced, clauseCount, clausesOn]

/-! ## The text of a tree -/

mutual

theorem rendered_unplaced : (e : Expr) → e.unplaced.rendered = e.rendered
  | literal _ _ | name _ _ | unknown _ => rfl
  | array _ items => by rw [unplaced, rendered, rendered, renderedAll_unplaced items]
  | member _ obj _ _ => by rw [unplaced, rendered, rendered, rendered_unplaced obj]
  | index _ obj key _ => by rw [unplaced, rendered, rendered, rendered_unplaced obj, rendered_unplaced key]
  | call _ _ args => by rw [unplaced, rendered, rendered, renderedAll_unplaced args]
  | prefixed _ _ operand => by rw [unplaced, rendered, rendered, rendered_unplaced operand]
  | binary _ _ left right => by rw [unplaced, rendered, rendered, rendered_unplaced left, rendered_unplaced right]
  | logical _ _ left right => by rw [unplaced, rendered, rendered, rendered_unplaced left, rendered_unplaced right]
  | conditional _ test yes no => by
    rw [unplaced, rendered, rendered, rendered_unplaced test, rendered_unplaced yes, rendered_unplaced no]

theorem renderedAll_unplaced : (es : List Expr) → renderedAll (unplacedAll es) = renderedAll es
  | [] => rfl
  | e :: es => by rw [unplacedAll, renderedAll, renderedAll, rendered_unplaced e, renderedAll_unplaced es]

end

theorem source_unplaced (e : Expr) : e.unplaced.source = e.source := by
  rw [source_eq, source_eq, rendered_unplaced]

end Expr
end CaptionAnimation.Expression

namespace CaptionAnimation.Evaluation

open Expression

/-! ## The value of a tree -/

section Meaning

variable (s : Scope)

theorem Scope.blame_unplaced (e : Expr) : s.blame e.unplaced = s.blame e := by
  funext cause
  rw [Scope.blame, Scope.blame, e.source_unplaced]

theorem Scope.settle_unplaced (e : Expr) : s.settle e.unplaced = s.settle e := by
  funext outcome
  unfold Scope.settle
  rw [s.blame_unplaced]

theorem Scope.settleCall_unplaced (e : Expr) : s.settleCall e.unplaced = s.settleCall e := by
  funext outcome
  unfold Scope.settleCall
  rw [s.blame_unplaced]

mutual

theorem meaning_unplaced : (e : Expr) → meaning s e.unplaced = meaning s e
  | .literal _ _ => rfl
  | .name pos name => by
    have hblame := s.blame_unplaced (.name pos name)
    simp only [Expr.unplaced] at hblame
    simp only [Expr.unplaced, meaning, Scope.root, hblame]
  | .unknown pos => by
    have hblame := s.blame_unplaced (.unknown pos)
    simp only [Expr.unplaced] at hblame
    simp only [Expr.unplaced, meaning, hblame]
  | .array _ items => by simp only [Expr.unplaced, meaning, meanings_unplaced items]
  | .member pos obj name guarded => by
    have hblame := s.blame_unplaced (.member pos obj name guarded)
    simp only [Expr.unplaced] at hblame
    simp only [Expr.unplaced, meaning, meaning_unplaced obj, hblame]
  | .index pos obj key guarded => by
    have hsettle := s.settle_unplaced (.index pos obj key guarded)
    simp only [Expr.unplaced] at hsettle
    simp only [Expr.unplaced, meaning, meaning_unplaced obj, meaning_unplaced key, hsettle]
  | .call pos name args => by
    have hblame := s.blame_unplaced (.call pos name args)
    have hsettle := s.settleCall_unplaced (.call pos name args)
    have hlength : (Expr.unplacedAll args).length = args.length := by rw [Expr.unplacedAll_eq_map, List.length_map]
    simp only [Expr.unplaced] at hblame hsettle
    simp only [Expr.unplaced, meaning, meanings_unplaced args, hblame, hsettle, hlength]
  | .prefixed pos op operand => by
    have hsettle := s.settle_unplaced (.prefixed pos op operand)
    simp only [Expr.unplaced] at hsettle
    simp only [Expr.unplaced, meaning, meaning_unplaced operand, hsettle]
  | .binary pos op left right => by
    have hsettle := s.settle_unplaced (.binary pos op left right)
    simp only [Expr.unplaced] at hsettle
    simp only [Expr.unplaced, meaning, meaning_unplaced left, meaning_unplaced right, hsettle]
  | .logical pos op left right => by
    cases op <;> simp only [Expr.unplaced, meaning, meaning_unplaced left, meaning_unplaced right]
  | .conditional _ test yes no => by
    simp only [Expr.unplaced, meaning, meaning_unplaced test, meaning_unplaced yes, meaning_unplaced no]

theorem meanings_unplaced : (es : List Expr) → meanings s (Expr.unplacedAll es) = meanings s es
  | [] => rfl
  | e :: es => by simp only [Expr.unplacedAll, meanings, meaning_unplaced e, meanings_unplaced es]

end

theorem eval_unplaced (e : Expr) : eval s e.unplaced = eval s e := by
  rw [eval_of_meaning rfl, eval_of_meaning rfl, meaning_unplaced]

end Meaning

/-- Two trees that serve alike: they evaluate alike, rank alike and are analysed alike. -/
structure ServesAs (e e' : Expr) : Prop extends Interchangeable e e' where
  rootNames : e.rootNames = e'.rootNames
  variableNames : e.variableNames = e'.variableNames
  calls : e.calls = e'.calls
  nodeCount : e.nodeCount = e'.nodeCount
  source : e.source = e'.source

/-- Trees that differ in offsets only serve alike. -/
theorem servesAs_of_alike {e e' : Expr} (h : Alike e e') : ServesAs e e' where
  toInterchangeable := interchangeable_of_eval
    (fun s => by rw [← eval_unplaced s e, h, eval_unplaced])
    (by rw [← e.clauseCount_unplaced, h, e'.clauseCount_unplaced])
  rootNames := by rw [← e.rootNames_unplaced, h, e'.rootNames_unplaced]
  variableNames := by rw [← e.variableNames_unplaced, h, e'.variableNames_unplaced]
  calls := by rw [← e.calls_unplaced, h, e'.calls_unplaced]
  nodeCount := by rw [← e.nodeCount_unplaced, h, e'.nodeCount_unplaced]
  source := by rw [← e.source_unplaced, h, e'.source_unplaced]

end CaptionAnimation.Evaluation
