import CaptionAnimation.Proofs.Evaluation.Meaning
import CaptionAnimation.Proofs.Expression.Nodes
import Mathlib.Data.List.MinMax
import Mathlib.Order.Nat

/-! # Frames

How deep the calls of an evaluator nest that walks chains in loops. An array, a call, a prefix operator and a
conditional evaluate their parts in frames of their own. A chain evaluates its base and then, link by link, what stands
at the right of each link, all in frames of their own: it takes as many frames as its deepest part and one more,
however many links it has. -/
namespace CaptionAnimation

namespace Expression.Expr

open Evaluation

/-! ## Chains -/

/-- The kind of the chains that a node is a link of. -/
def chain? : Expr → Option Chain
  | logical _ _ _ _ => some .logical
  | binary _ _ _ _ => some .binary
  | member _ _ _ _ | index _ _ _ _ => some .access
  | _ => none

/-- What a link goes on from. -/
def left? : Expr → Option Expr
  | logical _ _ left _ | binary _ _ left _ => some left
  | member _ obj _ _ | index _ obj _ _ => some obj
  | _ => none

/-- What stands at the right of a link: the right operand, or the index. -/
def right? : Expr → Option Expr
  | logical _ _ _ right | binary _ _ _ right => some right
  | index _ _ key _ => some key
  | _ => none

/-- What the chain of a kind that ends in the node starts from: the first node down its left side that is no link. -/
def base : Expr → Chain → Expr
  | logical _ _ left _, .logical => left.base .logical
  | binary _ _ left _, .binary => left.base .binary
  | member _ obj _ _, .access | index _ obj _ _, .access => obj.base .access
  | e, _ => e

/-- The links of that chain, from the base up to the node. -/
def links : Expr → Chain → List Expr
  | logical pos op left right, .logical => left.links .logical ++ [.logical pos op left right]
  | binary pos op left right, .binary => left.links .binary ++ [.binary pos op left right]
  | member pos obj field guarded, .access => obj.links .access ++ [.member pos obj field guarded]
  | index pos obj key guarded, .access => obj.links .access ++ [.index pos obj key guarded]
  | _, _ => []

/-- The base of the chain and all that stands at the right of its links. -/
def spine (e : Expr) (kind : Chain) : List Expr := e.base kind :: (e.links kind).filterMap right?

/-- What is evaluated in frames of its own below the frame of the node. -/
def parts (e : Expr) : List Expr :=
  match e.chain? with
  | some kind => e.spine kind
  | none => e.children

variable {kind : Chain} {e left : Expr}

theorem base_link (hk : e.chain? = some kind) (hl : e.left? = some left) : e.base kind = left.base kind := by
  cases e <;> cases hk <;> cases hl <;> rfl

theorem links_link (hk : e.chain? = some kind) (hl : e.left? = some left) :
    e.links kind = left.links kind ++ [e] := by
  cases e <;> cases hk <;> cases hl <;> rfl

theorem base_start (hk : e.chain? ≠ some kind) : e.base kind = e := by
  cases e <;> cases kind <;> first | rfl | exact absurd rfl hk

theorem links_start (hk : e.chain? ≠ some kind) : e.links kind = [] := by
  cases e <;> cases kind <;> first | rfl | exact absurd rfl hk

/-- A node that is no link of the kind is a chain by itself. -/
theorem spine_start (hk : e.chain? ≠ some kind) : e.spine kind = [e] := by
  simp [spine, base_start hk, links_start hk]

theorem spine_link (hk : e.chain? = some kind) (hl : e.left? = some left) :
    e.spine kind = left.spine kind ++ e.right?.toList := by
  simp only [spine, base_link hk hl, links_link hk hl, List.filterMap_append, List.cons_append]
  cases hr : e.right? <;> simp [hr]

theorem left?_of_chain? (hk : e.chain? = some kind) : ∃ left, e.left? = some left := by
  cases e <;> cases hk <;> exact ⟨_, rfl⟩

theorem size_lt_of_left? (hl : e.left? = some left) : left.size < e.size := by
  cases e <;> cases hl <;> simp only [size] <;> omega

theorem size_lt_of_right? {right : Expr} (hr : right ∈ e.right?) : right.size < e.size := by
  cases e <;> cases hr <;> simp only [size] <;> omega

@[simp] theorem spine_member (pos : Nat) (obj : Expr) (name : String) (guarded : Bool) :
    (member pos obj name guarded).spine .access = obj.spine .access :=
  (spine_link rfl rfl).trans (List.append_nil _)

@[simp] theorem spine_index (pos : Nat) (obj key : Expr) (guarded : Bool) :
    (index pos obj key guarded).spine .access = obj.spine .access ++ [key] :=
  spine_link rfl rfl

theorem parts_of_chain? (hk : e.chain? = some kind) : e.parts = e.spine kind := by
  rw [parts, hk]

-- A chain is long on its left side, so that its proofs go from its base to its last link; the tree itself is not
-- followed any further.

/-- Induction along the left side of a chain. -/
theorem chain_induction (kind : Chain) {P : Expr → Prop} (start : ∀ e : Expr, e.chain? ≠ some kind → P e)
    (link : ∀ e left : Expr, e.chain? = some kind → e.left? = some left → P left → P e) (e : Expr) : P e := by
  by_cases hk : e.chain? = some kind
  · obtain ⟨left, hl⟩ := left?_of_chain? hk
    have := size_lt_of_left? hl
    exact link e left hk hl (chain_induction kind start link left)
  · exact start e hk
termination_by e.size

theorem size_le_of_mem_spine (e : Expr) : ∀ p ∈ e.spine kind, p.size ≤ e.size := by
  induction e using chain_induction kind with
  | start e hk => simp [spine_start hk]
  | link e left hk hl ih =>
    simp only [spine_link hk hl, List.mem_append, Option.mem_toList]
    rintro p (hp | hp)
    · exact Nat.le_trans (ih p hp) (Nat.le_of_lt (size_lt_of_left? hl))
    · exact Nat.le_of_lt (size_lt_of_right? hp)

theorem size_lt_of_mem_parts {p : Expr} (hp : p ∈ e.parts) : p.size < e.size := by
  unfold parts at hp
  split at hp
  · next kind hk =>
    obtain ⟨left, hl⟩ := left?_of_chain? hk
    rw [spine_link hk hl, List.mem_append, Option.mem_toList] at hp
    rcases hp with hp | hp
    · exact Nat.lt_of_le_of_lt (size_le_of_mem_spine left p hp) (size_lt_of_left? hl)
    · exact size_lt_of_right? hp
  · exact size_lt_of_mem_children hp

/-! ## Depth -/

/-- The number of frames that an evaluation may need at once: one for the node and those of its deepest part. -/
def evalDepth (e : Expr) : Nat := (e.parts.attach.map fun p => p.1.evalDepth).foldr max 0 + 1
termination_by e.size
decreasing_by exact size_lt_of_mem_parts p.2

theorem evalDepth_eq (e : Expr) : e.evalDepth = (e.parts.map evalDepth).foldr max 0 + 1 := by
  rw [evalDepth, List.attach_map_val (f := evalDepth)]

/-- A node needs no more than so many frames when its parts leave one for it. -/
theorem evalDepth_le_iff {n : Nat} : e.evalDepth ≤ n + 1 ↔ ∀ p ∈ e.parts, p.evalDepth ≤ n := by
  rw [evalDepth_eq, Nat.add_le_add_iff_right]
  constructor
  · exact fun h p hp => (List.le_max_of_le (List.mem_map_of_mem hp) le_rfl).trans h
  · exact fun h => List.max_le_of_forall_le _ _ (List.forall_mem_map.mpr h)

theorem evalDepth_lt_of_mem_parts {p : Expr} (hp : p ∈ e.parts) : p.evalDepth < e.evalDepth := by
  have hle := evalDepth_le_iff.mp (Nat.le_of_eq (evalDepth_eq e)) p hp
  rw [evalDepth_eq e]
  omega

/-- A chain of its own needs one frame more than its parts. -/
theorem evalDepth_le_of_spine {n : Nat} (h : ∀ p ∈ e.spine kind, p.evalDepth ≤ n) : e.evalDepth ≤ n + 1 := by
  by_cases hk : e.chain? = some kind
  · rwa [evalDepth_le_iff, parts_of_chain? hk]
  · exact Nat.le_succ_of_le (h e (by simp [spine_start hk]))

/-- No part of a chain needs more frames than the chain. -/
theorem evalDepth_le_of_mem_spine {p : Expr} (hp : p ∈ e.spine kind) : p.evalDepth ≤ e.evalDepth := by
  by_cases hk : e.chain? = some kind
  · exact Nat.le_of_lt (evalDepth_lt_of_mem_parts (by rwa [parts_of_chain? hk]))
  · rw [spine_start hk, List.mem_singleton] at hp
    exact Nat.le_of_eq (congrArg evalDepth hp)

end Expression.Expr

namespace Evaluation

open Expression

/-! ## Evaluating in frames -/

/-- An outcome, unless the frames run out. -/
abbrev Framed := ExceptT Failure Option

/-- An outcome reached. -/
def Framed.done {α : Type} (x : Except Failure α) : Framed α := ExceptT.mk (some x)

theorem Framed.bind_done {α β : Type} {x : Except Failure α} {f : α → Framed β} {g : α → Except Failure β}
    (h : ∀ a, f a = done (g a)) : done x >>= f = done (x >>= g) := by
  cases x with
  | error e => rfl
  | ok a => exact h a

section Frame

variable (s : Scope) (frame : Expr → Framed Value)

/-- Completes the value of a chain so far by its next link; what stands at the right of the link is evaluated in a
frame of its own. -/
def follow (v : Value) : Expr → Framed Value
  | .logical _ op _ right => if needsRight op v then frame right else return v
  | .binary pos op left right => do
    let w ← frame right
    Framed.done (s.settle (.binary pos op left right) (binaryOp op v w))
  | .member pos obj name guarded => Framed.done (s.settle (.member pos obj name guarded) (memberOp v name guarded))
  | .index pos obj key guarded =>
    if guarded && (v matches .null) then return .null
    else do
      let k ← frame key
      Framed.done (s.settle (.index pos obj key guarded) (indexOp v k))
  | _ => return v

/-- Evaluates a chain in a loop over its links. -/
def evalChain (e : Expr) (kind : Chain) : Framed Value := do
  (e.links kind).foldlM (follow s frame) (← frame (e.base kind))

/-- Evaluates a node in one frame, and its parts in the frames it is given. -/
def evalNode : Expr → Framed Value
  | .literal _ value => return value
  | .name pos name => Framed.done (s.root (.name pos name) name)
  | .array _ items => return .list (← items.mapM frame)
  | .member pos obj name guarded => evalChain s frame (.member pos obj name guarded) .access
  | .index pos obj key guarded => evalChain s frame (.index pos obj key guarded) .access
  | .logical pos op left right => evalChain s frame (.logical pos op left right) .logical
  | .binary pos op left right => evalChain s frame (.binary pos op left right) .binary
  | .prefixed pos op operand => do
    let v ← frame operand
    Framed.done (s.settle (.prefixed pos op operand) (prefixOp op v))
  | .conditional _ test yes no => do if (← frame test).truthy then frame yes else frame no
  | .call pos name args =>
    match s.helpers.find? name with
    | none => Framed.done (s.blame (.call pos name args) (.unknownHelper name))
    | some helper =>
      if helper.accepts args.length then do
        Framed.done (s.settleCall (.call pos name args) (helper.run (← args.mapM frame)))
      else Framed.done (s.blame (.call pos name args) (.wrongArity name helper.arity args.length))
  | .unknown pos => Framed.done (s.blame (.unknown pos) .unknownNode)

end Frame

/-- Evaluates a tree in at most so many frames, one inside another. -/
def evalWithin (s : Scope) : Nat → Expr → Framed Value
  | 0, _ => ExceptT.mk none
  | frames + 1, e => evalNode s (evalWithin s frames) e

variable {s : Scope} {frame : Expr → Framed Value}

theorem mapM_eq_meanings {es : List Expr} (h : ∀ e ∈ es, frame e = .done (meaning s e)) :
    es.mapM frame = .done (meanings s es) := by
  induction es with
  | nil => rfl
  | cons e es ih =>
    rw [List.mapM_cons, h e List.mem_cons_self, ih fun d hd => h d (List.mem_cons_of_mem e hd), meanings]
    exact Framed.bind_done fun v => Framed.bind_done fun vs => rfl

/-- A link completes the meaning of what it goes on from to its own. -/
theorem bind_follow {e left : Expr} (hl : e.left? = some left)
    (hr : ∀ right ∈ e.right?, frame right = .done (meaning s right)) :
    (Framed.done (meaning s left) >>= fun v => follow s frame v e) = .done (meaning s e) := by
  cases e with
  | logical pos op _ right =>
    cases hl
    rw [← bind_needsRight]
    refine Framed.bind_done fun v => ?_
    rw [follow, hr right rfl]
    split <;> rfl
  | binary pos op _ right =>
    cases hl
    rw [meaning]
    refine Framed.bind_done fun v => ?_
    rw [follow, hr right rfl]
    exact Framed.bind_done fun w => rfl
  | member pos _ name guarded =>
    cases hl
    rw [← bind_memberOp]
    exact Framed.bind_done fun v => rfl
  | index pos _ key guarded =>
    cases hl
    rw [← bind_indexOp]
    refine Framed.bind_done fun v => ?_
    have hkey : (frame key >>= fun k => Framed.done (s.settle (.index pos left key guarded) (indexOp v k))) =
        .done (meaning s key >>= fun k => s.settle (.index pos left key guarded) (indexOp v k)) := by
      rw [hr key rfl]
      exact Framed.bind_done fun k => rfl
    cases guarded with
    | false => exact hkey
    | true =>
      cases v with
      | null => rfl
      | _ => exact hkey
  | _ => cases hl

/-- The loop over a chain gives its meaning when what it evaluates in other frames has its own. -/
theorem evalChain_eq {kind : Chain} {e : Expr} (h : ∀ p ∈ e.spine kind, frame p = .done (meaning s p)) :
    evalChain s frame e kind = .done (meaning s e) := by
  -- by the links: up to the last one, the loop gives the meaning of what that link goes on from
  induction e using Expr.chain_induction kind with
  | start e hk =>
    rw [evalChain, Expr.base_start hk, Expr.links_start hk, h e (by simp [Expr.spine_start hk])]
    exact bind_pure _
  | link e left hk hl ih =>
    simp only [Expr.spine_link hk hl, List.mem_append, Option.mem_toList] at h
    have hleft := ih fun p hp => h p (.inl hp)
    rw [← bind_follow hl fun right hr => h right (.inr hr), ← hleft]
    simp only [evalChain, Expr.base_link hk hl, Expr.links_link hk hl, List.foldlM_append, List.foldlM_cons,
      List.foldlM_nil, bind_pure, bind_assoc]

theorem evalNode_eq {e : Expr} (h : ∀ p ∈ e.parts, frame p = .done (meaning s p)) :
    evalNode s frame e = .done (meaning s e) := by
  cases e with
  | literal pos value => rfl
  | name pos name => rfl
  | array pos items =>
    have hitems : items.mapM frame = .done (meanings s items) := mapM_eq_meanings h
    rw [evalNode, hitems, meaning]
    exact Framed.bind_done fun values => rfl
  | member pos obj name guarded => exact evalChain_eq h
  | index pos obj key guarded => exact evalChain_eq h
  | logical pos op left right => exact evalChain_eq h
  | binary pos op left right => exact evalChain_eq h
  | prefixed pos op operand =>
    rw [evalNode, h operand List.mem_cons_self, meaning]
    exact Framed.bind_done fun v => rfl
  | conditional pos test yes no =>
    have hyes := h yes (by simp [Expr.parts, Expr.chain?, Expr.children])
    have hno := h no (by simp [Expr.parts, Expr.chain?, Expr.children])
    rw [evalNode, h test List.mem_cons_self, meaning, hyes, hno]
    refine Framed.bind_done fun v => ?_
    split <;> rfl
  | call pos name args =>
    have hargs : args.mapM frame = .done (meanings s args) := mapM_eq_meanings h
    rw [evalNode, hargs, meaning]
    cases s.helpers.find? name with
    | none => rfl
    | some helper =>
      dsimp only
      split
      · exact Framed.bind_done fun values => rfl
      · rfl
  | unknown pos => rfl

/-- A tree has its value within as many frames as its depth. -/
theorem evalWithin_eq_meaning {frames : Nat} {e : Expr} (h : e.evalDepth ≤ frames) :
    evalWithin s frames e = .done (meaning s e) := by
  induction frames generalizing e with
  | zero =>
    rw [Expr.evalDepth_eq] at h
    omega
  | succ frames ih => exact evalNode_eq fun p hp => ih (Expr.evalDepth_le_iff.mp h p hp)

end Evaluation
end CaptionAnimation
