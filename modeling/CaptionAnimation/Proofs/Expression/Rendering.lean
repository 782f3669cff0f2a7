import CaptionAnimation.Expression.Source
import CaptionAnimation.Proofs.Expression.Nodes

/-! # Source text by recursion

`rendered` writes a tree by plain recursion on its parts. The walk down the left sides of chains writes the same text,
and there is a text as soon as every literal has one. -/
namespace CaptionAnimation.Expression.Expr

mutual

/-- The text of a tree by recursion on its parts. -/
def rendered : Expr → Except Fault String
  | literal _ value => literalSource value
  | array _ items => do
    let texts ← renderedAll items
    return "[" ++ ", ".intercalate texts ++ "]"
  | name _ root => .ok root
  | member _ obj field guarded => do
    let text ← rendered obj
    return text ++ (if guarded then "?." else ".") ++ field
  | index _ obj key _ => do
    let text ← rendered obj
    return text ++ "[" ++ (← rendered key) ++ "]"
  | call _ helper args => do
    let texts ← renderedAll args
    return helper ++ "(" ++ ", ".intercalate texts ++ ")"
  | prefixed _ op operand => do
    let text ← rendered operand
    return op.spelling ++ text
  | binary _ op left right => do
    let text ← rendered left
    return "(" ++ text ++ " " ++ op.spelling ++ " " ++ (← rendered right) ++ ")"
  | logical _ op left right => do
    let text ← rendered left
    return "(" ++ text ++ " " ++ op.spelling ++ " " ++ (← rendered right) ++ ")"
  | conditional _ test yes no => do
    let condition ← rendered test
    let first ← rendered yes
    let second ← rendered no
    return "(" ++ condition ++ " ? " ++ first ++ " : " ++ second ++ ")"
  | unknown _ => .ok "<?>"

/-- The texts of several trees. -/
def renderedAll : List Expr → Except Fault (List String)
  | [] => .ok []
  | e :: es => do
    let text ← rendered e
    return text :: (← renderedAll es)

end

mutual

/-- The walk with pending links writes the text of the node and then the links. -/
theorem sourceThen_eq : (e : Expr) → (links : List SourceLink) → sourceThen e links = applyAll (rendered e) links
  | literal _ _, _ => rfl
  | name _ _, _ => rfl
  | unknown _, _ => rfl
  | array _ items, links => by
    rw [sourceThen, rendered, sourceAll_eq items]
  | call _ _ args, links => by
    rw [sourceThen, rendered, sourceAll_eq args]
  | member _ obj _ _, links => by
    rw [sourceThen, sourceThen_eq obj, applyAll_cons, rendered]
    rfl
  | index _ obj key _, links => by
    rw [sourceThen, sourceThen_eq obj, applyAll_cons, rendered]
    simp only [sourceThen_eq key]
    rfl
  | prefixed _ _ operand, links => by
    rw [sourceThen, sourceThen_eq operand, rendered]
    rfl
  | binary _ _ left right, links => by
    rw [sourceThen, sourceThen_eq left, applyAll_cons, rendered]
    simp only [sourceThen_eq right]
    rfl
  | logical _ _ left right, links => by
    rw [sourceThen, sourceThen_eq left, applyAll_cons, rendered]
    simp only [sourceThen_eq right]
    rfl
  | conditional _ test yes no, links => by
    rw [sourceThen, sourceThen_eq test, sourceThen_eq yes, sourceThen_eq no, rendered]
    rfl

theorem sourceAll_eq : (es : List Expr) → sourceAll es = renderedAll es
  | [] => rfl
  | e :: es => by
    rw [sourceAll, renderedAll, sourceThen_eq e, sourceAll_eq es]
    rfl

end

theorem source_eq (e : Expr) : e.source = rendered e := sourceThen_eq e []

/-- The literals of the tree have a text. -/
def Displays (e : Expr) : Prop := ∀ pos v, literal pos v ∈ e.nodes → ∃ text, literalSource v = .ok text

theorem Displays.of_child {part e : Expr} (h : e.Displays) (hp : part ∈ e.children) : part.Displays :=
  fun pos v hv => h pos v (nodes_subset_of_mem_children hp hv)

mutual

/-- A tree has a text when its literals have one. -/
theorem Displays.rendered : (e : Expr) → e.Displays → ∃ text, e.rendered = .ok text
  | literal pos v, h => h pos v (mem_nodes_self _)
  | name _ root, _ => ⟨root, rfl⟩
  | unknown _, _ => ⟨_, rfl⟩
  | array pos items, h => by
    obtain ⟨texts, ht⟩ := Displays.renderedAll items fun part hp => h.of_child hp
    exact ⟨_, by rw [Expr.rendered, ht]; rfl⟩
  | call pos helper args, h => by
    obtain ⟨texts, ht⟩ := Displays.renderedAll args fun part hp => h.of_child hp
    exact ⟨_, by rw [Expr.rendered, ht]; rfl⟩
  | member pos obj field guarded, h => by
    obtain ⟨text, ht⟩ := Displays.rendered obj (h.of_child (by simp [children]))
    exact ⟨_, by rw [Expr.rendered, ht]; rfl⟩
  | index pos obj key guarded, h => by
    obtain ⟨text, ht⟩ := Displays.rendered obj (h.of_child (by simp [children]))
    obtain ⟨inner, hi⟩ := Displays.rendered key (h.of_child (by simp [children]))
    exact ⟨_, by rw [Expr.rendered, ht, hi]; rfl⟩
  | prefixed pos op operand, h => by
    obtain ⟨text, ht⟩ := Displays.rendered operand (h.of_child (by simp [children]))
    exact ⟨_, by rw [Expr.rendered, ht]; rfl⟩
  | binary pos op left right, h => by
    obtain ⟨text, ht⟩ := Displays.rendered left (h.of_child (by simp [children]))
    obtain ⟨text', ht'⟩ := Displays.rendered right (h.of_child (by simp [children]))
    exact ⟨_, by rw [Expr.rendered, ht, ht']; rfl⟩
  | logical pos op left right, h => by
    obtain ⟨text, ht⟩ := Displays.rendered left (h.of_child (by simp [children]))
    obtain ⟨text', ht'⟩ := Displays.rendered right (h.of_child (by simp [children]))
    exact ⟨_, by rw [Expr.rendered, ht, ht']; rfl⟩
  | conditional pos test yes no, h => by
    obtain ⟨text, ht⟩ := Displays.rendered test (h.of_child (by simp [children]))
    obtain ⟨text', ht'⟩ := Displays.rendered yes (h.of_child (by simp [children]))
    obtain ⟨text'', ht''⟩ := Displays.rendered no (h.of_child (by simp [children]))
    exact ⟨_, by rw [Expr.rendered, ht, ht', ht'']; rfl⟩

theorem Displays.renderedAll : (es : List Expr) → (∀ e ∈ es, e.Displays) → ∃ texts, Expr.renderedAll es = .ok texts
  | [], _ => ⟨[], rfl⟩
  | e :: es, h => by
    obtain ⟨text, ht⟩ := Displays.rendered e (h e List.mem_cons_self)
    obtain ⟨texts, hts⟩ := Displays.renderedAll es fun part hp => h part (List.mem_cons_of_mem _ hp)
    exact ⟨_, by rw [Expr.renderedAll, ht, hts]; rfl⟩

end

end CaptionAnimation.Expression.Expr
