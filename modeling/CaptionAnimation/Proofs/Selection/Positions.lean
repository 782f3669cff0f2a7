import CaptionAnimation.Proofs.Selection.Concatenation
import CaptionAnimation.Selection.Output

/-! # Positions of rules

Of the positions of rules in their template, only the order counts. Rules that are moved without changing their order
get the same verdicts, run in the same way and show the same results. -/
namespace CaptionAnimation

/-! ## Moving rules -/

/-- The rule at another position. -/
def CompiledRule.moved (φ : ℕ → ℕ) (r : CompiledRule) : CompiledRule := { r with index := φ r.index }

def Winner.moved (φ : ℕ → ℕ) (w : Winner) : Winner := { w with rule := w.rule.moved φ }

def Verdict.moved (φ : ℕ → ℕ) (v : Verdict) : Verdict := { v with winners := v.winners.map (Winner.moved φ) }

def Applied.moved (φ : ℕ → ℕ) (a : Applied) : Applied := { a with rule := a.rule.moved φ }

def WordSelection.moved (φ : ℕ → ℕ) (s : WordSelection) : WordSelection :=
  { s with winners := s.winners.map (Winner.moved φ) }

/-- The result with its rules at other positions. -/
def Application.moved (φ : ℕ → ℕ) (a : Application) : Application :=
  { a with
    applied := a.applied.map (Applied.moved φ)
    selections := a.selections.map fun words => words.map (WordSelection.moved φ) }

/-- The rules stand in the same order when they are moved. -/
def KeepsOrder (φ : ℕ → ℕ) (rules : List CompiledRule) : Prop :=
  ∀ a ∈ rules, ∀ b ∈ rules, φ a.index ≤ φ b.index ↔ a.index ≤ b.index

variable {φ : ℕ → ℕ} {rules : List CompiledRule}

theorem KeepsOrder.subset (h : KeepsOrder φ rules) {some : List CompiledRule} (hs : some ⊆ rules) : KeepsOrder φ some :=
  fun a ha b hb => h a (hs ha) b (hs hb)

theorem KeepsOrder.beq_index (h : KeepsOrder φ rules) {a b : CompiledRule} (ha : a ∈ rules) (hb : b ∈ rules) :
    (φ a.index == φ b.index) = (a.index == b.index) := by
  rw [Bool.eq_iff_iff, beq_iff_eq, beq_iff_eq, le_antisymm_iff, le_antisymm_iff, h a ha b hb, h b hb a ha]

theorem keepsOrder_id (rules : List CompiledRule) : KeepsOrder id rules := fun _ _ _ _ => Iff.rfl

theorem map_moved_id (rules : List CompiledRule) : rules.map (CompiledRule.moved id) = rules := List.map_id rules

theorem Application.moved_id (a : Application) : a.moved id = a := by
  have hselections : a.selections.map (fun words => words.map (WordSelection.moved id)) = a.selections := by
    have hwinners : WordSelection.moved id = id := funext fun w => congrArg (WordSelection.mk w.wordId) (List.map_id _)
    simp [hwinners]
  have happlied : a.applied.map (Applied.moved id) = a.applied := List.map_id _
  rw [moved, hselections, happlied]

/-! ## Verdicts -/

theorem CompiledRule.sorted_moved (h : KeepsOrder φ rules) :
    sorted (rules.map (moved φ)) = (sorted rules).map (moved φ) := by
  refine (List.map_mergeSort fun a ha b hb => ?_).symm
  have hle : decide (φ a.index ≤ φ b.index) = decide (a.index ≤ b.index) := decide_eq_decide.mpr (h a ha b hb)
  unfold precedes moved
  dsimp only
  rw [hle]

namespace Verdict

theorem rivals_moved (h : KeepsOrder φ rules) {r : CompiledRule} (hr : r ∈ rules) :
    rivals (rules.map (CompiledRule.moved φ)) (r.moved φ) = (rivals rules r).map (CompiledRule.moved φ) := by
  rw [rivals, rivals, List.filter_map]
  refine congrArg _ (List.filter_congr fun x hx => ?_)
  simp only [Function.comp_apply, CompiledRule.competes, CompiledRule.moved, h.beq_index hr hx]

theorem leaders_moved (h : KeepsOrder φ rules) :
    leaders (rules.map (CompiledRule.moved φ)) = (leaders rules).map (CompiledRule.moved φ) := by
  rw [leaders, leaders, List.filter_map]
  refine congrArg _ (List.filter_congr fun r hr => ?_)
  rw [Function.comp_apply, leads, leads, rivals_moved h hr, List.head?_map, Option.any_map]
  cases hfirst : (rivals rules r).head? with
  | none => rfl
  | some first => exact h.beq_index (List.mem_filter.mp (List.mem_of_head? hfirst)).1 hr

theorem clashes_moved (h : KeepsOrder φ rules) : clashes (rules.map (CompiledRule.moved φ)) = clashes rules := by
  rw [clashes, clashes, leaders_moved h, List.filterMap_map]
  refine List.filterMap_congr fun r hr => ?_
  have hids : (rivals (rules.map (CompiledRule.moved φ)) (r.moved φ)).map CompiledRule.id =
      (rivals rules r).map CompiledRule.id := by
    rw [rivals_moved h (List.mem_filter.mp hr).1, List.map_map]
    rfl
  have hlength := congrArg List.length hids
  rw [List.length_map, List.length_map] at hlength
  simp only [Function.comp_apply, hids, hlength]
  rfl

theorem runAll_map {α β γ : Type} (step : γ → Except Fault β) (cost : γ → ℕ) (f : α → γ) (as : List α) :
    runAll step cost (as.map f) = runAll (fun a => step (f a)) (fun a => cost (f a)) as := by
  induction as with
  | nil => rfl
  | cons a rest ih => rw [List.map_cons, runAll, runAll, ih]

theorem runAll_result {α β γ : Type} (step : α → Except Fault β) (cost : α → ℕ) (g : β → γ) (as : List α) :
    runAll (fun a => (step a).map g) cost as = ((runAll step cost as).1, (runAll step cost as).2.map (List.map g)) := by
  induction as with
  | nil => rfl
  | cons a rest ih =>
    rw [runAll, runAll, ih]
    cases step a with
    | error f => rfl
    | ok b =>
      dsimp only [Except.map]
      cases (runAll step cost rest).2 <;> rfl

/-- The test of a rule at another position. -/
def movedTest (φ : ℕ → ℕ) (t : CompiledRule × Test) : CompiledRule × Test := (t.1.moved φ, t.2)

theorem ranked_moved {tests : List (CompiledRule × Test)} (h : KeepsOrder φ (tests.map Prod.fst)) :
    ranked (tests.map (movedTest φ)) = (ranked tests).map (CompiledRule.moved φ) := by
  rw [ranked, ranked, ← CompiledRule.sorted_moved (h.subset (List.filter_sublist.map _).subset), List.filter_map,
    List.map_map, List.map_map]
  rfl

/-- The verdict from the tests of moved rules is the moved verdict. -/
theorem assemble_moved {tests : List (CompiledRule × Test)} (h : KeepsOrder φ (tests.map Prod.fst))
    (hr : KeepsOrder φ (ranked tests)) (strengths : List (Float × List RuleError)) :
    assemble (tests.map (movedTest φ)) strengths = (assemble tests strengths).moved φ := by
  have herrors : testErrors (tests.map (movedTest φ)) = testErrors tests := List.filterMap_map ..
  have htotals : totals (tests.map (movedTest φ)) = totals tests := List.foldl_map ..
  simp only [assemble, Verdict.moved, ranked_moved h, leaders_moved hr, clashes_moved hr, herrors, htotals,
    List.zip_map_left, List.map_map]
  rfl

end Verdict

/-- Moved rules get the moved verdict. -/
theorem Ledger.judge_moved (h : KeepsOrder φ rules) (l : Ledger) (s : Evaluation.Scope) :
    (l.judge s (rules.map (CompiledRule.moved φ))).2 = (l.judge s rules).2.map (Verdict.moved φ) := by
  have hstep : (fun r => do return (r.moved φ, ← (r.moved φ).test s) : CompiledRule → Except Fault _) =
      fun r => (do return (r, ← r.test s) : Except Fault _).map (Verdict.movedTest φ) := by
    funext r
    rw [show (r.moved φ).test s = r.test s from rfl]
    cases r.test s <;> rfl
  have hcost : (fun r => (r.moved φ).testCost : CompiledRule → ℕ) = CompiledRule.testCost := rfl
  unfold judge
  rw [Verdict.runAll_map, hstep, Verdict.runAll_result, hcost]
  cases htests : Verdict.runAll (fun r => do return (r, ← r.test s)) CompiledRule.testCost rules with
  | mk spent outcome =>
    cases outcome with
    | error f => rfl
    | ok tests =>
      have hfst : tests.map Prod.fst = rules := (Verdict.tested_iff.mp (congrArg Prod.snd htests)).map_fst
      have hsub : Verdict.ranked tests ⊆ rules := by
        intro r hr
        obtain ⟨t, ht, rfl⟩ := List.mem_map.mp ((CompiledRule.sorted_perm _).subset hr)
        exact hfst ▸ List.mem_map_of_mem (List.mem_filter.mp ht).1
      have horder := h.subset hsub
      -- the order of the rules is kept, so the same ones lead, and with the same strengths
      have hkeys : ((Verdict.ranked (tests.map (Verdict.movedTest φ))).findSome? fun r => r.rule.group.unkeyable) =
          (Verdict.ranked tests).findSome? fun r => r.rule.group.unkeyable := by
        rw [Verdict.ranked_moved (hfst ▸ h), List.findSome?_map]
        rfl
      have hstrengths : Verdict.runAll (fun r => CompiledRule.strength r s) CompiledRule.strengthCost
          (Verdict.leaders (Verdict.ranked (tests.map (Verdict.movedTest φ)))) =
          Verdict.runAll (fun r => CompiledRule.strength r s) CompiledRule.strengthCost
            (Verdict.leaders (Verdict.ranked tests)) := by
        rw [Verdict.ranked_moved (hfst ▸ h), Verdict.leaders_moved horder, Verdict.runAll_map]
        rfl
      dsimp only [Except.map]
      rw [hkeys, hstrengths]
      cases (Verdict.ranked tests).findSome? fun r => r.rule.group.unkeyable with
      | some kind => rfl
      | none =>
        dsimp only
        cases (Verdict.runAll (fun r => CompiledRule.strength r s) CompiledRule.strengthCost
            (Verdict.leaders (Verdict.ranked tests))).2 with
        | error f => rfl
        | ok strengths => exact congrArg Except.ok (Verdict.assemble_moved (hfst ▸ h) horder strengths)

/-! ## Runs and results -/

theorem Application.add_moved (a : Application) (id : String) (v : Verdict) :
    (a.moved φ).add id (v.moved φ) = (a.add id v).moved φ := by
  have hselections : (a.selections.map fun words => words.map (WordSelection.moved φ)).map
      (· ++ [⟨id, v.winners.map (Winner.moved φ)⟩]) =
        (a.selections.map (· ++ [⟨id, v.winners⟩])).map fun words => words.map (WordSelection.moved φ) := by
    cases a.selections with
    | none => rfl
    | some words => simp [WordSelection.moved]
  simp only [add, Application.moved, Verdict.moved, hselections, List.map_append, List.map_map, List.length_map]
  rfl

/-- Taking a word with moved rules moves what is added to the result. -/
theorem Course.advance_moved (c : Course) (h : KeepsOrder φ c.rules) (a : Application) (p : PlacedWord) :
    advance { c with rules := c.rules.map (CompiledRule.moved φ) } (a.moved φ) p = (c.advance a p).moved φ := by
  have hjudge : (judge { c with rules := c.rules.map (CompiledRule.moved φ) } {} p).2 =
      (c.judge {} p).2.map (Verdict.moved φ) := Ledger.judge_moved h _ _
  unfold advance
  rw [hjudge]
  dsimp only
  split
  · rfl
  · cases (c.judge {} p).2 with
    | error f => rfl
    | ok v => exact a.add_moved p.id v

theorem Course.foldl_advance_moved (c : Course) (h : KeepsOrder φ c.rules) (words : List PlacedWord) (a : Application) :
    words.foldl (advance { c with rules := c.rules.map (CompiledRule.moved φ) }) (a.moved φ) =
      (words.foldl c.advance a).moved φ := by
  induction words generalizing a with
  | nil => rfl
  | cons p rest ih => rw [List.foldl_cons, List.foldl_cons, c.advance_moved h, ih]

theorem WordSelection.toMap_moved (w : WordSelection) : (w.moved φ).toMap = w.toMap := by
  have hwinners : (w.winners.map (Winner.moved φ)).mapM Winner.toMap = w.winners.mapM Winner.toMap := List.mapM_map
  rw [toMap, toMap, moved, hwinners, List.map_map]
  rfl

/-- A result shows nothing of the positions of its rules. -/
theorem Application.toMap_moved (a : Application) : (a.moved φ).toMap = a.toMap := by
  have happlied : (a.applied.map (Applied.moved φ)).mapM Applied.toMap = a.applied.mapM Applied.toMap := List.mapM_map
  have hwords (words : List WordSelection) :
      (words.map (WordSelection.moved φ)).mapM WordSelection.toMap = words.mapM WordSelection.toMap := by
    rw [List.mapM_map]
    exact congrArg (List.mapM · words) (funext WordSelection.toMap_moved)
  have hselections :
      (a.selections.map fun words => words.map (WordSelection.moved φ)).mapM
          (fun words => words.mapM WordSelection.toMap) =
        a.selections.mapM fun words => words.mapM WordSelection.toMap := by
    cases a.selections with
    | none => rfl
    | some words => simp only [Option.map_some, Option.mapM_some, hwords]
  unfold toMap
  dsimp only [moved]
  rw [happlied, hselections]
  rfl

end CaptionAnimation
