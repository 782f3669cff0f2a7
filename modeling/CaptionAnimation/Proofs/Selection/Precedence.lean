import CaptionAnimation.Proofs.Number.Order
import CaptionAnimation.Proofs.Template.Compilation
import Mathlib.Data.Prod.Lex
import Mathlib.Order.OrderDual
import Mathlib.Data.List.Sort

/-! # Precedence

Compiled rules are ranked by what their declarations say: the higher priority first, then the condition with more
clauses, then the earlier position. Rules at different positions are never tied, so a set of rules has one order of
precedence, in whatever order the rules are given. -/
namespace CaptionAnimation

open Expression

namespace Rule

/-- The declared priority as a rational number. -/
def priorityValue (r : Rule) : ℚ :=
  match r.priority with
  | .number n => n.toRat
  | _ => 0

/-- The number of clauses of the declared condition. -/
def clauses (r : Rule) : ℕ :=
  match r.condition with
  | .text source =>
    match parse source with
    | .ok e => e.clauseCount
    | .error _ => 0
  | _ => 0

end Rule

namespace CompiledRule

/-- The first rule has the higher priority, or else more clauses, or else stands earlier in its template. -/
def Outranks (a b : CompiledRule) : Prop :=
  b.rule.priorityValue < a.rule.priorityValue ∨
    a.rule.priorityValue = b.rule.priorityValue ∧
      (b.rule.clauses < a.rule.clauses ∨ a.rule.clauses = b.rule.clauses ∧ a.index < b.index)

/-- What rules are ranked by; the smaller comes first. -/
def rank (r : CompiledRule) : ℚᵒᵈ ×ₗ (ℕᵒᵈ ×ₗ ℕ) :=
  toLex (OrderDual.toDual r.rule.priorityValue, toLex (OrderDual.toDual r.rule.clauses, r.index))

theorem outranks_iff (a b : CompiledRule) : a.Outranks b ↔ a.rank < b.rank := by
  simp [Outranks, rank, Prod.Lex.toLex_lt_toLex]

theorem Outranks.trans {a b c : CompiledRule} (hab : a.Outranks b) (hbc : b.Outranks c) : a.Outranks c := by
  rw [outranks_iff] at *
  exact lt_trans hab hbc

theorem Outranks.asymm {a b : CompiledRule} (hab : a.Outranks b) : ¬ b.Outranks a := by
  rw [outranks_iff] at *
  exact lt_asymm hab

theorem Faithful.priorityValue_eq {r : CompiledRule} (h : r.Faithful) : r.rule.priorityValue = r.priority.toRat := by
  rw [Rule.priorityValue, h.priority]

theorem Faithful.clauses_eq {r : CompiledRule} (h : r.Faithful) : r.rule.clauses = r.specificity := by
  obtain ⟨source, e, hsource, he, -, hs⟩ := h.condition
  rw [Rule.clauses, hsource, hs]
  simp only [he]

/-- Comparing priorities, then specificities, then positions compares ranks. -/
theorem precedes_eq {a b : CompiledRule} (ha : a.Faithful) (hb : b.Faithful) :
    precedes a b = decide (a.rank ≤ b.rank) := by
  have heq := Number.eq_iff_toRat ha.finite hb.finite
  have hlt := Number.lt_iff_toRat hb.finite ha.finite
  simp only [precedes, rank, Prod.Lex.toLex_le_toLex, OrderDual.toDual_lt_toDual, OrderDual.toDual_inj,
    ha.priorityValue_eq, hb.priorityValue_eq, ha.clauses_eq, hb.clauses_eq]
  rcases lt_trichotomy a.priority.toRat b.priority.toRat with h | h | h
  · have hne : ¬ a.priority.eq b.priority = true := fun he => h.ne (heq.mp he)
    have hnl : ¬ b.priority.lt a.priority = true := fun hl => h.not_gt (hlt.mp hl)
    simp [hne, hnl, h.ne, h.not_gt]
  · have he : a.priority.eq b.priority = true := heq.mpr h
    rcases Nat.lt_trichotomy a.specificity b.specificity with hs | hs | hs
    · simp [he, h, hs.ne, hs.not_gt]
    · simp [he, h, hs]
    · simp [he, h, hs.ne', hs]
  · have hne : ¬ a.priority.eq b.priority = true := fun he => h.ne' (heq.mp he)
    simp [hne, hlt.mpr h, h]

theorem sorted_perm (rules : List CompiledRule) : (sorted rules).Perm rules := List.mergeSort_perm _ _

/-- Sorting compiled rules sorts their ranks. -/
theorem map_rank_sorted {rules : List CompiledRule} (h : ∀ r ∈ rules, r.Faithful) :
    (sorted rules).map rank = (rules.map rank).mergeSort (fun x y => decide (x ≤ y)) :=
  List.map_mergeSort fun a ha b hb => precedes_eq (h a ha) (h b hb)

/-- Sorted rules stand in order of precedence, without ties. -/
theorem sorted_outranks {rules : List CompiledRule} (h : ∀ r ∈ rules, r.Faithful)
    (hn : (rules.map index).Nodup) : (sorted rules).Pairwise Outranks := by
  have hle : ((sorted rules).map rank).Pairwise (· ≤ ·) := by
    rw [map_rank_sorted h]
    simpa using List.pairwise_mergeSort' (fun x y : ℚᵒᵈ ×ₗ (ℕᵒᵈ ×ₗ ℕ) => x ≤ y) (rules.map rank)
  have hne : (sorted rules).Pairwise fun a b => a.index ≠ b.index :=
    List.pairwise_map.mp (((sorted_perm rules).map index).nodup_iff.mpr hn)
  refine ((List.pairwise_map.mp hle).and hne).imp fun {a b} hab => (outranks_iff a b).mpr (lt_of_le_of_ne hab.1 ?_)
  intro he
  exact hab.2 (congrArg (fun x => (ofLex (ofLex x).2).2) he)

/-- The order in which rules are given makes no difference to their order of precedence. -/
theorem eq_of_perm_of_outranks {xs ys : List CompiledRule} (h : xs.Perm ys) (hx : xs.Pairwise Outranks)
    (hy : ys.Pairwise Outranks) : xs = ys :=
  h.eq_of_pairwise (fun _ _ _ _ hab hba => (hab.asymm hba).elim) hx hy

/-- Rules that are left out leave the others in their order. -/
theorem sorted_filter {rules : List CompiledRule} (h : ∀ r ∈ rules, r.Faithful) (hn : (rules.map index).Nodup)
    (p : CompiledRule → Bool) : sorted (rules.filter p) = (sorted rules).filter p := by
  refine eq_of_perm_of_outranks ((sorted_perm _).trans ((sorted_perm rules).filter p).symm) ?_ ?_
  · exact sorted_outranks (fun r hr => h r (List.mem_filter.mp hr).1) (hn.sublist (List.filter_sublist.map _))
  · exact (sorted_outranks h hn).filter p

end CompiledRule
end CaptionAnimation
