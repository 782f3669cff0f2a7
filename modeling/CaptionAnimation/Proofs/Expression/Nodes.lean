import CaptionAnimation.Expression.Analysis
import Mathlib.Data.List.Basic

/-! # Nodes by recursion

The walk with a stack lists the nodes of a tree as recursion on its parts does: the root, then the nodes of each part
from left to right. -/
namespace CaptionAnimation.Expression.Expr

theorem size_le_sizeAll {p : Expr} {es : List Expr} (h : p ∈ es) : p.size ≤ sizeAll es := by
  obtain ⟨before, after, rfl⟩ := List.append_of_mem h
  simp only [sizeAll_append, sizeAll]
  omega

theorem size_lt_of_mem_children {part e : Expr} (h : part ∈ e.children) : part.size < e.size := by
  have := size_le_sizeAll h
  rw [size_eq_children e]
  omega

/-- Induction on a tree by its parts. -/
theorem children_induction {P : Expr → Prop} (step : ∀ e : Expr, (∀ part ∈ e.children, P part) → P e) (e : Expr) :
    P e :=
  step e fun part h =>
    have := size_lt_of_mem_children h
    children_induction step part
termination_by e.size

theorem nodesOn_append (stack more : List Expr) : nodesOn (stack ++ more) = nodesOn stack ++ nodesOn more := by
  induction stack using nodesOn.induct with
  | case1 => simp [nodesOn]
  | case2 e stack ih =>
    rw [List.cons_append, nodesOn, nodesOn, ← List.append_assoc, ih, List.cons_append]

theorem nodesOn_eq_flatMap (stack : List Expr) : nodesOn stack = stack.flatMap nodes := by
  induction stack with
  | nil => simp [nodesOn]
  | cons e stack ih => rw [← List.singleton_append, nodesOn_append, ih, List.flatMap_append, List.flatMap_singleton, nodes]

theorem nodes_eq (e : Expr) : e.nodes = e :: e.children.flatMap nodes := by
  rw [nodes, nodesOn, List.append_nil, nodesOn_eq_flatMap]

theorem mem_nodes_self (e : Expr) : e ∈ e.nodes := by
  rw [nodes_eq]
  exact List.mem_cons_self

theorem nodes_subset_of_mem_children {part e : Expr} (h : part ∈ e.children) : part.nodes ⊆ e.nodes := by
  intro n hn
  rw [nodes_eq e]
  exact List.mem_cons_of_mem _ (List.mem_flatMap.mpr ⟨part, h, hn⟩)

theorem nodes_subset_nodesOn {n : Expr} {stack : List Expr} (h : n ∈ nodesOn stack) : n.nodes ⊆ nodesOn stack := by
  induction stack using nodesOn.induct with
  | case1 => simp [nodesOn] at h
  | case2 e stack ih =>
    rw [nodesOn] at h ⊢
    rcases List.mem_cons.mp h with rfl | h
    · rw [nodes_eq, ← nodesOn_eq_flatMap, nodesOn_append]
      exact List.cons_subset_cons _ (List.subset_append_left _ _)
    · exact List.subset_cons_of_subset _ (ih h)

/-- The nodes below a node of a tree are nodes of the tree. -/
theorem nodes_subset_of_mem {n e : Expr} (h : n ∈ e.nodes) : n.nodes ⊆ e.nodes := nodes_subset_nodesOn h

end CaptionAnimation.Expression.Expr
