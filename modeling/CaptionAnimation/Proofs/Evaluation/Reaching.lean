import CaptionAnimation.Proofs.Evaluation.Meaning
import CaptionAnimation.Proofs.Except
import CaptionAnimation.Proofs.Expression.Nodes
import Mathlib.Logic.Relation

/-! # What an evaluation comes to

The evaluation of a node comes to a part when the values of the parts before it call for it: to the operands and the
items from left to right, to the right operand of a logical operator when it is needed, to the key of an access unless
it is guarded and there is nothing to look in, to the arguments of a helper that takes so many, and to one branch of a
conditional. A failure of what the evaluation comes to is the failure of the whole. -/
namespace CaptionAnimation.Evaluation

open Expression

variable {s : Scope} {failure : Failure}

/-- The evaluation of a node comes to one of its parts. -/
inductive Enters (s : Scope) : Expr → Expr → Prop where
  | item {pos : Nat} {before after : List Expr} {e : Expr} {values : List Value}
    (hbefore : evalAll s before = .ok values) : Enters s (.array pos (before ++ e :: after)) e
  | object {pos : Nat} {obj : Expr} {name : String} {guarded : Bool} : Enters s (.member pos obj name guarded) obj
  | indexed {pos : Nat} {obj key : Expr} {guarded : Bool} : Enters s (.index pos obj key guarded) obj
  | key {pos : Nat} {obj key : Expr} {guarded : Bool} {v : Value} (hv : eval s obj = .ok v)
    (hg : ¬ (guarded = true ∧ v = .null)) : Enters s (.index pos obj key guarded) key
  | argument {pos : Nat} {name : String} {helper : Helper} {before after : List Expr} {e : Expr} {values : List Value}
    (hf : s.helpers.find? name = some helper) (ha : helper.accepts (before ++ e :: after).length = true)
    (hbefore : evalAll s before = .ok values) : Enters s (.call pos name (before ++ e :: after)) e
  | operand {pos : Nat} {op : PrefixOp} {operand : Expr} : Enters s (.prefixed pos op operand) operand
  | left {pos : Nat} {op : BinaryOp} {left right : Expr} : Enters s (.binary pos op left right) left
  | right {pos : Nat} {op : BinaryOp} {left right : Expr} {v : Value} (hv : eval s left = .ok v) :
    Enters s (.binary pos op left right) right
  | first {pos : Nat} {op : LogicalOp} {left right : Expr} : Enters s (.logical pos op left right) left
  | second {pos : Nat} {op : LogicalOp} {left right : Expr} {v : Value} (hv : eval s left = .ok v)
    (hn : needsRight op v = true) : Enters s (.logical pos op left right) right
  | test {pos : Nat} {test yes no : Expr} : Enters s (.conditional pos test yes no) test
  | yes {pos : Nat} {test yes no : Expr} {v : Value} (hv : eval s test = .ok v) (ht : v.truthy = true) :
    Enters s (.conditional pos test yes no) yes
  | no {pos : Nat} {test yes no : Expr} {v : Value} (hv : eval s test = .ok v) (ht : v.truthy = false) :
    Enters s (.conditional pos test yes no) no

/-- The evaluation of a tree comes to a node of it. -/
abbrev Reaches (s : Scope) : Expr → Expr → Prop := Relation.ReflTransGen (Enters s)

theorem Enters.mem_children {e part : Expr} (h : Enters s e part) : part ∈ e.children := by
  cases h <;> simp [Expr.children]

theorem Reaches.mem_nodes {e n : Expr} (h : Reaches s e n) : n ∈ e.nodes := by
  induction h using Relation.ReflTransGen.head_induction_on with
  | refl => exact n.mem_nodes_self
  | head h _ ih => exact Expr.nodes_subset_of_mem_children h.mem_children ih

/-- Several trees have no values when one of them has none and those before it have values. -/
theorem meanings_eq_error_iff {es : List Expr} :
    meanings s es = .error failure ↔
      ∃ before e after values, es = before ++ e :: after ∧ meanings s before = .ok values ∧
        meaning s e = .error failure := by
  induction es with
  | nil => simp [meanings]
  | cons d es ih =>
    constructor
    · intro h
      rw [meanings] at h
      obtain h | ⟨v, hv, h⟩ := bind_eq_error_iff.mp h
      · exact ⟨[], d, es, [], rfl, rfl, h⟩
      · obtain h | ⟨vs, -, h⟩ := bind_eq_error_iff.mp h
        · obtain ⟨before, e, after, values, rfl, hbefore, he⟩ := ih.mp h
          refine ⟨d :: before, e, after, v :: values, rfl, ?_, he⟩
          rw [meanings, hv, hbefore]
          rfl
        · cases h
    · rintro ⟨before, e, after, values, hes, hbefore, he⟩
      rw [meanings]
      cases before with
      | nil =>
        obtain ⟨rfl, rfl⟩ := List.cons.inj hes
        rw [he]
        rfl
      | cons b before =>
        obtain ⟨rfl, rfl⟩ := List.cons.inj hes
        obtain ⟨v, hv, hbefore⟩ := bind_eq_ok_iff.mp hbefore
        obtain ⟨vs, hbefore, -⟩ := bind_eq_ok_iff.mp hbefore
        rw [hv, ih.mpr ⟨before, e, after, vs, rfl, hbefore, he⟩]
        rfl

/-- An index is looked up unless it is guarded and there is nothing to look in. -/
theorem meaning_index {pos : Nat} {obj key : Expr} {guarded : Bool} {v : Value}
    (hv : meaning s obj = .ok v) (hg : ¬ (guarded = true ∧ v = .null)) :
    meaning s (.index pos obj key guarded) =
      (meaning s key).bind fun k => s.settle (.index pos obj key guarded) (indexOp v k) := by
  rw [← bind_indexOp, hv]
  cases guarded with
  | false => rfl
  | true =>
    cases v with
    | null => exact absurd ⟨rfl, rfl⟩ hg
    | _ => rfl

/-- A part that the evaluation comes to and that fails makes the node fail. -/
theorem Enters.meaning_eq_error {e part : Expr} (h : Enters s e part) (hpart : meaning s part = .error failure) :
    meaning s e = .error failure := by
  cases h with
  | item hbefore =>
    rw [evalAll_eq] at hbefore
    rw [meaning, meanings_eq_error_iff.mpr ⟨_, _, _, _, rfl, hbefore, hpart⟩]
    rfl
  | object => rw [← bind_memberOp, hpart]; rfl
  | indexed => rw [← bind_indexOp, hpart]; rfl
  | key hv hg => rw [meaning_index (meaning_of_eval hv) hg, hpart]; rfl
  | argument hf ha hbefore =>
    rw [evalAll_eq] at hbefore
    rw [meaning, hf, meanings_eq_error_iff.mpr ⟨_, _, _, _, rfl, hbefore, hpart⟩]
    exact if_pos ha
  | operand => rw [meaning, hpart]; rfl
  | left => rw [meaning, hpart]; rfl
  | right hv => rw [meaning, meaning_of_eval hv, hpart]; rfl
  | first => rw [← bind_needsRight, hpart]; rfl
  | second hv hn =>
    rw [← bind_needsRight, meaning_of_eval hv, ← hpart]
    exact if_pos hn
  | test => rw [meaning, hpart]; rfl
  | yes hv ht =>
    rw [meaning, meaning_of_eval hv, ← hpart]
    exact if_pos ht
  | no hv ht =>
    rw [meaning, meaning_of_eval hv, ← hpart]
    exact if_neg (Bool.eq_false_iff.mp ht)

/-- A node that the evaluation comes to and that fails makes the whole fail. -/
theorem Reaches.eval_eq_error {e n : Expr} (h : Reaches s e n) (hn : eval s n = .error failure) :
    eval s e = .error failure := by
  induction h using Relation.ReflTransGen.head_induction_on with
  | refl => exact hn
  | head h _ ih => exact eval_of_meaning (h.meaning_eq_error (meaning_of_eval ih))

end CaptionAnimation.Evaluation
