import CaptionAnimation.Proofs.Expression.Clauses
import CaptionAnimation.Proofs.Expression.Rendering
import Mathlib.Data.List.Basic
import Mathlib.Data.List.Lex

/-! # Walks and recursion

What is computed with a stack, or down the left sides of chains, is what recursion on the tree computes: the nodes in
preorder, their number, the calls among them, the clauses of a condition and the text of the tree. The nodes are those at
the addresses in the tree, one for each address, from left to right. -/
namespace CaptionAnimation.Expression.Expr

/-! ## Preorder -/

mutual

/-- The node, then everything below it, part by part from left to right. -/
def preorder : Expr → List Expr
  | literal pos value => [literal pos value]
  | array pos items => array pos items :: preorderAll items
  | name pos root => [name pos root]
  | member pos obj field guarded => member pos obj field guarded :: preorder obj
  | index pos obj key guarded => index pos obj key guarded :: (preorder obj ++ preorder key)
  | call pos helper args => call pos helper args :: preorderAll args
  | prefixed pos op operand => prefixed pos op operand :: preorder operand
  | binary pos op left right => binary pos op left right :: (preorder left ++ preorder right)
  | logical pos op left right => logical pos op left right :: (preorder left ++ preorder right)
  | conditional pos test yes no => conditional pos test yes no :: (preorder test ++ (preorder yes ++ preorder no))
  | unknown pos => [unknown pos]

def preorderAll : List Expr → List Expr
  | [] => []
  | e :: es => preorder e ++ preorderAll es

end

theorem preorderAll_eq_flatMap (es : List Expr) : preorderAll es = es.flatMap preorder := by
  induction es with
  | nil => rfl
  | cons e es ih => rw [preorderAll, List.flatMap_cons, ih]

theorem preorder_eq (e : Expr) : e.preorder = e :: e.children.flatMap preorder := by
  cases e <;> simp [preorder, children, preorderAll_eq_flatMap]

theorem nodes_eq_preorder (e : Expr) : e.nodes = e.preorder := by
  induction e using children_induction with
  | step e ih => rw [nodes_eq, preorder_eq, List.flatMap_congr ih]

/-- A stack is worked off in as many steps as its trees have nodes. -/
theorem length_nodesOn (stack : List Expr) : (nodesOn stack).length = sizeAll stack := by
  induction stack using nodesOn.induct with
  | case1 => simp [nodesOn, sizeAll]
  | case2 e stack ih =>
    rw [nodesOn, List.length_cons, ih, sizeAll_append, sizeAll, size_eq_children]
    omega

/-! ## Addresses -/

/-- What stands at an address: the numbers of the parts on the way down. -/
def partAt : Expr → List Nat → Option Expr
  | e, [] => some e
  | e, i :: address => e.children[i]?.bind fun part => part.partAt address

/-- The same in a row of trees. -/
def partIn (row : List Expr) : List Nat → Option Expr
  | [] => none
  | i :: address => row[i]?.bind fun part => part.partAt address

/-- An address in a row that gets one more tree on its left. -/
def shifted : List Nat → List Nat
  | [] => []
  | i :: address => (i + 1) :: address

/-- The list holds what is found at the addresses at which something is found, once for each address, in the order of the
addresses: at a node before below it, and below one part before below the next. -/
def ListsPlaces {α : Type} (place : List Nat → Option α) (found : List α) : Prop :=
  ∃ addresses : List (List Nat), addresses.Pairwise (· < ·) ∧ (∀ a, a ∈ addresses ↔ (place a).isSome) ∧
    addresses.map place = found.map some

theorem filter_isSome_map {α β : Type} (pick : α → Option β) (as : List α) :
    (as.map pick).filter Option.isSome = (as.filterMap pick).map some := by
  induction as with
  | nil => rfl
  | cons a as ih => cases h : pick a <;> simp [h, ih]

/-- What is picked from what is found is found at the same addresses. -/
theorem ListsPlaces.filterMap {α β : Type} {place : List Nat → Option α} {found : List α} (h : ListsPlaces place found)
    (pick : α → Option β) : ListsPlaces (fun a => (place a).bind pick) (found.filterMap pick) := by
  obtain ⟨addresses, hsorted, hmem, hplaces⟩ := h
  refine ⟨addresses.filter fun a => ((place a).bind pick).isSome, hsorted.filter _, fun a => ?_, ?_⟩
  · rw [List.mem_filter, hmem]
    cases h : place a <;> simp [h]
  · have hpicked : (addresses.map fun a => (place a).bind pick) = found.map pick := by
      simpa [Function.comp_def] using congrArg (List.map fun x : Option α => x.bind pick) hplaces
    rw [← filter_isSome_map, ← hpicked, List.filter_map]
    rfl

theorem shifted_lt_shifted {a b : List Nat} (h : a < b) : shifted a < shifted b := by
  cases a with
  | nil =>
    cases b with
    | nil => exact h
    | cons j b => exact List.nil_lt_cons _ _
  | cons i a =>
    cases b with
    | nil => exact absurd h (List.not_lt_nil _)
    | cons j b =>
      rw [List.cons_lt_cons_iff] at h
      simpa [shifted, List.cons_lt_cons_iff] using h

@[simp] theorem shifted_eq_nil {a : List Nat} : shifted a = [] ↔ a = [] := by cases a <;> simp [shifted]

@[simp] theorem shifted_eq_cons {a address : List Nat} {i : Nat} :
    shifted a = i :: address ↔ ∃ j, i = j + 1 ∧ a = j :: address := by
  cases a with
  | nil => simp [shifted]
  | cons j a => grind [shifted]

theorem partIn_shifted (e : Expr) (row : List Expr) (a : List Nat) : partIn (e :: row) (shifted a) = partIn row a := by
  cases a <;> rfl

/-- The nodes of a row of trees are at the addresses in the row. -/
theorem listsPlaces_row {row : List Expr} (h : ∀ e ∈ row, ListsPlaces e.partAt e.nodes) :
    ListsPlaces (partIn row) (row.flatMap nodes) := by
  induction row with
  | nil =>
    refine ⟨[], .nil, fun a => ?_, rfl⟩
    cases a <;> simp [partIn]
  | cons e row ih =>
    obtain ⟨first, hsorted, hmem, hplaces⟩ := h e List.mem_cons_self
    obtain ⟨rest, hsorted', hmem', hplaces'⟩ := ih fun d hd => h d (List.mem_cons_of_mem _ hd)
    have hrest : [] ∉ rest := by simp [hmem', partIn]
    -- the addresses in the first tree, then those in the others, which stand one place further to the right
    refine ⟨first.map (0 :: ·) ++ rest.map shifted, List.pairwise_append.mpr ⟨?_, ?_, ?_⟩, fun a => ?_, ?_⟩
    · exact hsorted.map _ fun a b hab => by simpa [List.cons_lt_cons_iff] using hab
    · exact hsorted'.map _ fun a b hab => shifted_lt_shifted hab
    · simp only [List.mem_map]
      rintro _ ⟨a, -, rfl⟩ _ ⟨b, hb, rfl⟩
      -- an address in the first tree starts with zero, any other one does not
      cases b with
      | nil => exact absurd hb hrest
      | cons i b => exact List.Lex.rel (Nat.succ_pos i)
    · cases a with
      | nil => simp [partIn, hrest]
      | cons i a => cases i <;> simp [partIn, hmem, hmem']
    · rw [List.map_append, List.map_map, List.map_map, List.flatMap_cons, List.map_append, ← hplaces, ← hplaces']
      exact congrArg₂ _ rfl (List.map_congr_left fun a _ => partIn_shifted e row a)

/-- The nodes are at the addresses in the tree: the node itself at the empty one, all others below it. -/
theorem listsPlaces_nodes (e : Expr) : ListsPlaces e.partAt e.nodes := by
  induction e using children_induction with
  | step e ih =>
    obtain ⟨below, hsorted, hmem, hplaces⟩ := listsPlaces_row ih
    have hbelow : [] ∉ below := by simp [hmem, partIn]
    refine ⟨[] :: below, List.pairwise_cons.mpr ⟨?_, hsorted⟩, fun a => ?_, ?_⟩
    · intro a ha
      cases a with
      | nil => exact absurd ha hbelow
      | cons i a => exact List.nil_lt_cons i a
    · cases a with
      | nil => simp [partAt]
      | cons i a => simp [hmem, partAt, partIn]
    · rw [nodes_eq, List.map_cons, List.map_cons, ← hplaces]
      refine congrArg₂ _ rfl (List.map_congr_left fun a ha => ?_)
      cases a with
      | nil => exact absurd ha hbelow
      | cons i a => rfl

/-! ## Clauses -/

/-- The number of clauses by recursion on the tree. -/
def clauses : Expr → Nat
  | logical _ .and left right | logical _ .or left right => left.clauses + right.clauses
  | prefixed _ .not operand => operand.clauses
  | conditional _ test yes no => test.clauses + max yes.clauses no.clauses
  | literal _ _ | array _ _ => 0
  | _ => 1

theorem clauseCount_eq_clauses : (e : Expr) → e.clauseCount = e.clauses
  | logical pos .and left right => by
    rw [clauseCount_and, clauses, clauseCount_eq_clauses left, clauseCount_eq_clauses right]
  | logical pos .or left right => by
    rw [clauseCount_or, clauses, clauseCount_eq_clauses left, clauseCount_eq_clauses right]
  | prefixed pos .not operand => by rw [clauseCount_not, clauses, clauseCount_eq_clauses operand]
  | conditional pos test yes no => by
    rw [clauseCount_conditional, clauses, clauseCount_eq_clauses test, clauseCount_eq_clauses yes,
      clauseCount_eq_clauses no]
  | logical _ .coalesce _ _ | logical _ (.other _) _ _ | prefixed _ .negate _ | prefixed _ .plus _
  | prefixed _ (.other _) _ | literal _ _ | array _ _ | name _ _ | member _ _ _ _ | index _ _ _ _ | call _ _ _
  | binary _ _ _ _ | unknown _ => by simp [clauseCount, clausesOn, clauses]

/-! ## All walks -/

/-- The walks over a tree give what recursion on it gives. -/
theorem walks_eq_recursion (e : Expr) :
    e.nodes = e.preorder ∧ ListsPlaces e.partAt e.nodes ∧ e.nodeCount = e.size ∧
      e.calls = e.preorder.filterMap call? ∧ ListsPlaces (fun a => (e.partAt a).bind call?) e.calls ∧
      e.clauseCount = e.clauses ∧ e.source = e.rendered := by
  refine ⟨nodes_eq_preorder e, listsPlaces_nodes e, ?_, ?_, (listsPlaces_nodes e).filterMap call?,
    clauseCount_eq_clauses e, source_eq e⟩
  · rw [nodeCount, nodes, length_nodesOn, sizeAll, sizeAll, Nat.add_zero]
  · rw [calls, nodes_eq_preorder]

end CaptionAnimation.Expression.Expr
