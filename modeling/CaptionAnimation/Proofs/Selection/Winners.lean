import CaptionAnimation.Proofs.Selection.Precedence
import CaptionAnimation.Selection.Verdict
import Mathlib.Data.List.Perm.Basic

/-! # Winners

The verdict on a word, from the declared rules. The rules whose conditions hold are listed in order of precedence,
the first of each conflict group wins, and a group in which several match is reported as a conflict. Beyond the order
of the errors, the verdict does not depend on the order in which rules are given. -/
namespace CaptionAnimation

open Evaluation

namespace CompiledRule

/-- Whether the declared condition holds. -/
def matchesAt (s : Scope) (r : CompiledRule) : Bool :=
  match holds (evaluateText s r.rule.condition) with
  | .ok b => b
  | .error _ => false

/-- What is reported when the declared condition has no outcome. -/
def failureAt (s : Scope) (r : CompiledRule) : Option RuleError :=
  match holds (evaluateText s r.rule.condition) with
  | .ok _ => none
  | .error failure => some ⟨r.id, failure.message⟩

/-- Whether the conflict group of a rule is this text. -/
def inGroup (g : String) (r : CompiledRule) : Bool := r.rule.group.text? == some g

/-- Whether the conflict group of a rule is a text at all. -/
def Grouped (r : CompiledRule) : Prop := ∃ g, r.rule.group = .text g

theorem inGroup_of_eq {r : CompiledRule} {g : String} (h : r.rule.group = .text g) (k : String) :
    r.inGroup k = (g == k) := by
  simp [inGroup, h, Value.text?]

theorem inGroup_iff {r : CompiledRule} {g : String} (hr : r.Grouped) : r.inGroup g = true ↔ r.rule.group = .text g := by
  obtain ⟨k, hk⟩ := hr
  simp [inGroup_of_eq hk, hk]

theorem Faithful.evaluateText_eq {r : CompiledRule} (h : r.Faithful) (s : Scope) :
    ∃ e, r.condition = some e ∧ evaluate s e r.rule.condition.text? = evaluateText s r.rule.condition := by
  obtain ⟨source, e, hsource, he, hc, -⟩ := h.condition
  refine ⟨e, hc, ?_⟩
  simp only [hsource, Value.text?, evaluateText, he]

/-- What is reported of a test of a rule. -/
def report (r : CompiledRule) : Test → Option RuleError
  | .broken message => some ⟨r.id, message⟩
  | _ => none

/-- What a test found is what the declared condition says. -/
theorem Faithful.test_eq_ok {r : CompiledRule} (h : r.Faithful) {s : Scope} {found : Test}
    (ht : r.test s = .ok found) : found.isHolds = r.matchesAt s ∧ r.report found = r.failureAt s := by
  obtain ⟨e, hc, he⟩ := h.evaluateText_eq s
  simp only [test, hc, he] at ht
  unfold matchesAt failureAt
  split at ht
  · next hh => cases ht; simp [hh, Test.isHolds, report]
  · next hh => cases ht; simp [hh, Test.isHolds, report]
  · simp at ht
  · next hh => cases ht; simp [hh, Test.isHolds, report]

/-- An error about the strength names the rule. -/
theorem strength_errors {r : CompiledRule} {s : Scope} {x : Float × List RuleError} (h : r.strength s = .ok x) :
    ∀ e ∈ x.2, e.rule = r.id := by
  unfold strength at h
  obtain ⟨declared, -, h⟩ := bind_eq_ok_iff.mp h
  split at h
  · cases h; simp
  · split at h
    · split at h
      · cases h; simp
      · obtain ⟨shown, -, h⟩ := bind_eq_ok_iff.mp h
        cases h
        simp
    · simp [throw, throwThe, MonadExceptOf.throw] at h
    · cases h; simp

end CompiledRule

/-- Whether the group of a conflict is this text. -/
def Conflict.ofGroup (g : String) (k : Conflict) : Bool := k.group.text? == some g

namespace Verdict

/-- A run gives what its steps give, when all of them do. -/
theorem runAll_eq_ok_iff {α β : Type} {step : α → Except Fault β} {cost : α → Nat} {as : List α} {bs : List β} :
    (runAll step cost as).2 = .ok bs ↔ List.Forall₂ (fun a b => step a = .ok b) as bs := by
  induction as generalizing bs with
  | nil => cases bs <;> simp [runAll]
  | cons a rest ih =>
    unfold runAll
    cases ha : step a with
    | error f => cases bs <;> simp [ha]
    | ok b =>
      cases ht : (runAll step cost rest).2 with
      | error f =>
        cases bs with
        | nil => simp [ht, Except.map]
        | cons b' bs => simp [ht, Except.map, ← ih]
      | ok tail =>
        cases bs with
        | nil => simp [ht, Except.map]
        | cons b' bs => simp [ht, Except.map, ha, ← ih]

theorem exists_forall₂ {α β : Type} {R : α → β → Prop} {as : List α} (h : ∀ a ∈ as, ∃ b, R a b) :
    ∃ bs, List.Forall₂ R as bs := by
  induction as with
  | nil => exact ⟨[], List.Forall₂.nil⟩
  | cons a rest ih =>
    obtain ⟨b, hb⟩ := h a List.mem_cons_self
    obtain ⟨bs, hbs⟩ := ih fun a ha => h a (List.mem_cons_of_mem _ ha)
    exact ⟨b :: bs, .cons hb hbs⟩

section Groups

variable {ranked : List CompiledRule} (hg : ∀ r ∈ ranked, r.Grouped) (hn : (ranked.map CompiledRule.index).Nodup)

include hg hn

/-- The rivals of a rule are the rules of its group. -/
theorem rivals_eq {r : CompiledRule} (hr : r ∈ ranked) {g : String} (h : r.rule.group = .text g) :
    rivals ranked r = ranked.filter (CompiledRule.inGroup g) := by
  refine List.filter_congr fun x hx => ?_
  obtain ⟨k, hk⟩ := hg x hx
  have hsame : r.rule.group.same x.rule.group = (k == g) := by
    rw [h, hk, Value.same, Bool.beq_comm]
  rw [CompiledRule.competes, hsame, CompiledRule.inGroup_of_eq hk]
  by_cases hi : r.index = x.index
  · obtain rfl : r = x := List.inj_on_of_nodup_map hn hr hx hi
    obtain rfl : g = k := by simpa [h] using hk
    simp
  · simp [hi]

/-- Of the rules of a group that match, the first leads. -/
theorem leaders_inGroup (g : String) :
    (leaders ranked).filter (CompiledRule.inGroup g) = (ranked.filter (CompiledRule.inGroup g)).head?.toList := by
  have hleads : ∀ r ∈ ranked.filter (CompiledRule.inGroup g),
      leads ranked r = (ranked.filter (CompiledRule.inGroup g)).head?.any fun first => first.index == r.index := by
    intro r hr
    obtain ⟨hm, hi⟩ := List.mem_filter.mp hr
    rw [leads, rivals_eq hg hn hm ((CompiledRule.inGroup_iff (hg r hm)).mp hi)]
  have hnd : ((ranked.filter (CompiledRule.inGroup g)).map CompiledRule.index).Nodup :=
    hn.sublist (List.filter_sublist.map _)
  rw [leaders, List.filter_comm, List.filter_congr hleads]
  generalize ranked.filter (CompiledRule.inGroup g) = group at hnd
  cases group with
  | nil => rfl
  | cons first rest =>
    have hrest : ∀ r ∈ rest, ¬ first.index = r.index := fun r hr he =>
      (List.nodup_cons.mp hnd).1 (he ▸ List.mem_map_of_mem hr)
    simpa using hrest

/-- A group is reported when several of its rules match: the first as the winner, and all of them in order. -/
theorem clashes_ofGroup (g : String) :
    (clashes ranked).filter (Conflict.ofGroup g) =
      match ranked.filter (CompiledRule.inGroup g) with
      | first :: second :: others => [⟨.text g, first.id, (first :: second :: others).map CompiledRule.id⟩]
      | _ => [] := by
  have hclash : (clashes ranked).filter (Conflict.ofGroup g) =
      ((leaders ranked).filter (CompiledRule.inGroup g)).filterMap fun r =>
        let group := ranked.filter (CompiledRule.inGroup g)
        if group.length > 1 then some ⟨.text g, r.id, group.map CompiledRule.id⟩ else none := by
    rw [clashes, List.filter_filterMap, List.filterMap_filter]
    refine List.filterMap_congr fun r hr => ?_
    have hm : r ∈ ranked := (List.mem_filter.mp hr).1
    by_cases hi : r.inGroup g = true
    · have ht := (CompiledRule.inGroup_iff (hg r hm)).mp hi
      rw [if_pos hi, rivals_eq hg hn hm ht, ht]
      dsimp only
      split <;> simp [Conflict.ofGroup, Value.text?]
    · obtain ⟨k, hk⟩ := hg r hm
      have hkg : ¬ k = g := by simpa [CompiledRule.inGroup_of_eq hk] using hi
      rw [if_neg hi, hk]
      dsimp only
      split <;> simp [hkg, Conflict.ofGroup, Value.text?]
  rw [hclash, leaders_inGroup hg hn]
  rcases ranked.filter (CompiledRule.inGroup g) with _ | ⟨first, _ | ⟨second, others⟩⟩
  · rfl
  · rfl
  · rfl

end Groups

section Tests

variable {s : Scope} {rules : List CompiledRule} {tests : List (CompiledRule × Test)}

/-- The tests of rules, each with its rule. -/
def Tested (s : Scope) (rules : List CompiledRule) (tests : List (CompiledRule × Test)) : Prop :=
  List.Forall₂ (fun r t => t.1 = r ∧ r.test s = .ok t.2) rules tests

theorem Tested.map_fst (h : Tested s rules tests) : tests.map Prod.fst = rules := by
  induction h with
  | nil => rfl
  | cons ht _ ih => rw [List.map_cons, ht.1, ih]

theorem Tested.test_eq (h : Tested s rules tests) : ∀ t ∈ tests, t.1.test s = .ok t.2 := by
  induction h with
  | nil => simp
  | cons ht _ ih =>
    intro t hm
    rcases List.mem_cons.mp hm with rfl | hm
    · rw [ht.1, ht.2]
    · exact ih t hm

/-- The rules that tested positive are the ones whose conditions hold. -/
theorem Tested.holding (h : Tested s rules tests) (hf : ∀ r ∈ rules, r.Faithful) :
    (tests.filter fun t => t.2.isHolds).map Prod.fst = rules.filter (CompiledRule.matchesAt s) := by
  have hmem : ∀ t ∈ tests, t.1.Faithful := fun t ht => hf _ (h.map_fst ▸ List.mem_map_of_mem ht)
  rw [← h.map_fst, List.filter_map]
  exact congrArg _ (List.filter_congr fun t ht => ((hmem t ht).test_eq_ok (h.test_eq t ht)).1)

/-- The errors of the tests are the failures of the conditions, in the order of the rules. -/
theorem Tested.errors (h : Tested s rules tests) (hf : ∀ r ∈ rules, r.Faithful) :
    testErrors tests = rules.filterMap (CompiledRule.failureAt s) := by
  have hmem : ∀ t ∈ tests, t.1.Faithful := fun t ht => hf _ (h.map_fst ▸ List.mem_map_of_mem ht)
  calc testErrors tests
      = tests.filterMap fun t => t.1.report t.2 := rfl
    _ = tests.filterMap fun t => t.1.failureAt s :=
        List.filterMap_congr fun t ht => ((hmem t ht).test_eq_ok (h.test_eq t ht)).2
    _ = rules.filterMap (CompiledRule.failureAt s) := by rw [← h.map_fst, List.filterMap_map]; rfl

theorem Tested.ranked_perm (h : Tested s rules tests) (hf : ∀ r ∈ rules, r.Faithful) :
    (ranked tests).Perm (rules.filter (CompiledRule.matchesAt s)) :=
  h.holding hf ▸ CompiledRule.sorted_perm _

theorem Tested.ranked_order (h : Tested s rules tests) (hf : ∀ r ∈ rules, r.Faithful)
    (hn : (rules.map CompiledRule.index).Nodup) : (ranked tests).Pairwise CompiledRule.Outranks := by
  rw [ranked, h.holding hf]
  exact CompiledRule.sorted_outranks (fun r hr => hf r (List.mem_filter.mp hr).1)
    (hn.sublist (List.filter_sublist.map _))

theorem tested_iff :
    (runAll (fun r => do return (r, ← r.test s)) CompiledRule.testCost rules).2 = .ok tests ↔ Tested s rules tests := by
  have hstep : (fun (r : CompiledRule) t => (do return (r, ← r.test s) : Except Fault _) = .ok t) =
      fun r (t : CompiledRule × Test) => t.1 = r ∧ r.test s = .ok t.2 := by
    funext r t
    obtain ⟨r', found⟩ := t
    cases r.test s <;> simp [bind, Except.bind, pure, Except.pure, eq_comm]
  rw [runAll_eq_ok_iff, Tested, hstep]

theorem totals_perm {tests others : List (CompiledRule × Test)} (h : others.Perm tests) :
    totals others = totals tests := by
  refine h.foldl_eq' (fun x _ y _ acc => ?_) ({} : RuleStats)
  simp only [RuleStats.add, RuleStats.mk.injEq]
  omega

end Tests

/-- What a verdict says about the rules it was given, in terms of their declarations. The errors of the strengths come
after those of the conditions. -/
structure Settles (t : Template) (s : Scope) (rules ranked : List CompiledRule) (v : Verdict) : Prop where
  ranked_perm : ranked.Perm (rules.filter (CompiledRule.matchesAt s))
  ranked_order : ranked.Pairwise CompiledRule.Outranks
  declared : ∀ r ∈ ranked, t.rules[r.index]? = some r.rule
  grouped : ∀ r ∈ ranked, r.Grouped
  matched : v.matched = ranked.map CompiledRule.id
  winners_order : (v.winners.map Winner.rule).Sublist ranked
  winner_of_group : ∀ g, (v.winners.map Winner.rule).filter (CompiledRule.inGroup g) =
    (ranked.filter (CompiledRule.inGroup g)).head?.toList
  conflicts_grouped : ∀ k ∈ v.conflicts, ∃ g, k.group = .text g
  conflict_of_group : ∀ g, v.conflicts.filter (Conflict.ofGroup g) =
    match ranked.filter (CompiledRule.inGroup g) with
    | first :: second :: others => [⟨.text g, first.id, (first :: second :: others).map CompiledRule.id⟩]
    | _ => []
  errors : ∃ later, v.errors = rules.filterMap (CompiledRule.failureAt s) ++ later ∧
    ∀ e ∈ later, ∃ w ∈ v.winners, e.rule = w.rule.id

/-- The verdict from the tests of the rules and the strengths of those that lead. -/
def assemble (tests : List (CompiledRule × Test)) (strengths : List (Float × List RuleError)) : Verdict where
  winners := ((leaders (ranked tests)).zip strengths).map fun (r, strength) => ⟨r, strength.1⟩
  matched := (ranked tests).map CompiledRule.id
  conflicts := clashes (ranked tests)
  errors := testErrors tests ++ strengths.flatMap (·.2)
  stats := totals tests

end Verdict

/-- Rules are judged when each can be tested, the groups of those that match are keys, and each that leads has a
strength. -/
theorem Ledger.judge_eq_ok_iff {l : Ledger} {s : Scope} {rules : List CompiledRule} {v : Verdict} :
    (l.judge s rules).2 = .ok v ↔
      ∃ tests strengths, Verdict.Tested s rules tests ∧
        ((Verdict.ranked tests).findSome? fun r => r.rule.group.unkeyable) = none ∧
        List.Forall₂ (fun r x => r.strength s = .ok x) (Verdict.leaders (Verdict.ranked tests)) strengths ∧
        v = Verdict.assemble tests strengths := by
  have htested : ∀ tests, (Verdict.runAll (fun r => do return (r, ← r.test s)) CompiledRule.testCost rules).2 =
      .ok tests ↔ Verdict.Tested s rules tests := fun _ => Verdict.tested_iff
  unfold Ledger.judge
  generalize Verdict.runAll (fun r => do return (r, ← r.test s)) CompiledRule.testCost rules = run at htested ⊢
  obtain ⟨spent, outcome⟩ := run
  cases outcome with
  | error f =>
    refine iff_of_false (by simp) ?_
    rintro ⟨tests, strengths, ht, -⟩
    simpa using (htested tests).mpr ht
  | ok tests =>
    -- there is one outcome of the tests at most
    have hunique : ∀ others, Verdict.Tested s rules others ↔ tests = others := fun others => by
      rw [← htested others, Except.ok.injEq]
    simp only [hunique, ↓existsAndEq, true_and]
    cases hk : (Verdict.ranked tests).findSome? fun r => r.rule.group.unkeyable with
    | some kind => simp
    | none =>
      have hstrengths : ∀ strengths, (Verdict.runAll (fun r => CompiledRule.strength r s) CompiledRule.strengthCost
          (Verdict.leaders (Verdict.ranked tests))).2 = .ok strengths ↔
          List.Forall₂ (fun r x => CompiledRule.strength r s = .ok x) (Verdict.leaders (Verdict.ranked tests)) strengths :=
        fun _ => Verdict.runAll_eq_ok_iff
      generalize Verdict.runAll (fun r => CompiledRule.strength r s) CompiledRule.strengthCost
        (Verdict.leaders (Verdict.ranked tests)) = run at hstrengths ⊢
      obtain ⟨spent', outcome⟩ := run
      cases outcome with
      | error f => simp [← hstrengths]
      | ok strengths =>
        have hunique' : ∀ others, List.Forall₂ (fun r x => CompiledRule.strength r s = .ok x)
            (Verdict.leaders (Verdict.ranked tests)) others ↔ strengths = others := fun others => by
          rw [← hstrengths others, Except.ok.injEq]
        simp only [hunique', ↓existsAndEq, true_and, Except.ok.injEq, Verdict.assemble]
        exact eq_comm

/-- Rules of text groups have a verdict when their conditions can be tested and their strengths are known. -/
theorem Ledger.judge_returns (l : Ledger) {s : Scope} {rules : List CompiledRule} (hg : ∀ r ∈ rules, r.Grouped)
    (ht : ∀ r ∈ rules, ∃ found, r.test s = .ok found) (hs : ∀ r ∈ rules, ∃ x, r.strength s = .ok x) :
    ∃ v, (l.judge s rules).2 = .ok v := by
  obtain ⟨tests, htests⟩ : ∃ tests, Verdict.Tested s rules tests :=
    Verdict.exists_forall₂ fun r hr => (ht r hr).imp' (r, ·) fun _ h => ⟨rfl, h⟩
  have hmem : ∀ r ∈ Verdict.ranked tests, r ∈ rules := by
    intro r hr
    obtain ⟨t, htm, rfl⟩ := List.mem_map.mp ((CompiledRule.sorted_perm _).mem_iff.mp hr)
    exact htests.map_fst ▸ List.mem_map_of_mem (List.mem_filter.mp htm).1
  obtain ⟨strengths, hstrengths⟩ : ∃ strengths, List.Forall₂ (fun r x => CompiledRule.strength r s = .ok x)
      (Verdict.leaders (Verdict.ranked tests)) strengths :=
    Verdict.exists_forall₂ fun r hr => hs r (hmem r (List.mem_filter.mp hr).1)
  refine ⟨_, Ledger.judge_eq_ok_iff.mpr ⟨tests, strengths, htests, ?_, hstrengths, rfl⟩⟩
  refine List.findSome?_eq_none_iff.mpr fun r hr => ?_
  obtain ⟨g, hgroup⟩ := hg r (hmem r hr)
  rw [hgroup]
  rfl

/-- Tests that go in another order are the same tests in that order. -/
theorem Verdict.Tested.perm {s : Scope} {rules order : List CompiledRule} {tests : List (CompiledRule × Test)}
    (h : Verdict.Tested s rules tests) (hp : order.Perm rules) :
    ∃ others, Verdict.Tested s order others ∧ others.Perm tests :=
  List.perm_comp_forall₂ hp h

theorem Verdict.assemble_winners {tests : List (CompiledRule × Test)} {strengths : List (Float × List RuleError)}
    (h : strengths.length = (leaders (ranked tests)).length) :
    (assemble tests strengths).winners.map Winner.rule = leaders (ranked tests) := by
  rw [assemble, List.map_map]
  exact List.map_fst_zip (Nat.le_of_eq h.symm)

/-- Errors about strengths are about winners. -/
theorem Verdict.mem_strength_errors {s : Scope} {tests : List (CompiledRule × Test)}
    {strengths : List (Float × List RuleError)}
    (hs : List.Forall₂ (fun r x => CompiledRule.strength r s = .ok x) (leaders (ranked tests)) strengths)
    {e : RuleError} (he : e ∈ strengths.flatMap (·.2)) : ∃ w ∈ (assemble tests strengths).winners, e.rule = w.rule.id := by
  obtain ⟨x, hx, he⟩ := List.mem_flatMap.mp he
  obtain ⟨hlength, hzip⟩ := List.forall₂_iff_zip.mp hs
  rw [← List.map_snd_zip (Nat.le_of_eq hlength.symm)] at hx
  obtain ⟨⟨r, y⟩, hm, rfl⟩ := List.mem_map.mp hx
  exact ⟨⟨r, y.1⟩, List.mem_map_of_mem hm, CompiledRule.strength_errors (hzip hm) e he⟩

theorem Verdict.clashes_grouped {ranked : List CompiledRule} (hg : ∀ r ∈ ranked, r.Grouped) :
    ∀ k ∈ clashes ranked, ∃ g, k.group = .text g := by
  intro k hk
  obtain ⟨r, hr, hk⟩ := List.mem_filterMap.mp hk
  dsimp only at hk
  split at hk
  · cases hk
    exact hg r (List.mem_filter.mp hr).1
  · cases hk

/-- Faithful rules at different positions, all of text groups, are settled by a verdict. -/
theorem Verdict.assemble_settles {t : Template} {s : Scope} {rules : List CompiledRule}
    {tests : List (CompiledRule × Test)} {strengths : List (Float × List RuleError)} (ht : Verdict.Tested s rules tests)
    (hs : List.Forall₂ (fun r x => CompiledRule.strength r s = .ok x) (leaders (ranked tests)) strengths)
    (hf : ∀ r ∈ rules, r.Faithful) (hd : ∀ r ∈ rules, t.rules[r.index]? = some r.rule)
    (hg : ∀ r ∈ rules, r.Grouped) (hn : (rules.map CompiledRule.index).Nodup) :
    Settles t s rules (ranked tests) (assemble tests strengths) := by
  have hperm := ht.ranked_perm hf
  have hmem : ∀ r ∈ ranked tests, r ∈ rules := fun r hr => (List.mem_filter.mp (hperm.mem_iff.mp hr)).1
  have hgroups : ∀ r ∈ ranked tests, r.Grouped := fun r hr => hg r (hmem r hr)
  have hindexes : ((ranked tests).map CompiledRule.index).Nodup :=
    (hperm.map _).nodup_iff.mpr (hn.sublist (List.filter_sublist.map _))
  have hwinners := assemble_winners hs.length_eq.symm
  exact {
    ranked_perm := hperm
    ranked_order := ht.ranked_order hf hn
    declared := fun r hr => hd r (hmem r hr)
    grouped := hgroups
    matched := rfl
    winners_order := hwinners ▸ List.filter_sublist
    winner_of_group := fun g => hwinners ▸ leaders_inGroup hgroups hindexes g
    conflicts_grouped := clashes_grouped hgroups
    conflict_of_group := clashes_ofGroup hgroups hindexes
    errors := ⟨_, congrArg (· ++ _) (ht.errors hf), fun _ he => mem_strength_errors hs he⟩ }

/-- Distinct rules of a valid template are settled by a verdict on them. -/
theorem Ledger.exists_settles {helpers : Registry} {t : Template} {c : CompiledTemplate}
    (hc : Template.analyze helpers t = .ok c) (hv : c.isValid) {l : Ledger} {s : Scope} {rules : List CompiledRule}
    (hm : ∀ r ∈ rules, r ∈ c.rules) (hn : rules.Nodup) {v : Verdict} (hj : (l.judge s rules).2 = .ok v) :
    ∃ ranked, Verdict.Settles t s rules ranked v := by
  have hindexes : (rules.map CompiledRule.index).Nodup :=
    hn.map_on fun a ha b hb => List.inj_on_of_nodup_map (CompiledTemplate.rules_index_nodup hc) (hm a ha) (hm b hb)
  obtain ⟨tests, strengths, ht, -, hs, rfl⟩ := Ledger.judge_eq_ok_iff.mp hj
  exact ⟨_, Verdict.assemble_settles ht hs (fun r hr => (CompiledTemplate.rules_faithful hc (hm r hr)).1)
    (fun r hr => (CompiledTemplate.rules_faithful hc (hm r hr)).2)
    (fun r hr => (CompiledTemplate.rules_valid hc hv (hm r hr)).1) hindexes⟩

/-- A verdict on distinct rules of a valid template says which of them match, in order of precedence, lets the first
of each group win, reports each group in which several match, and reports each condition that has no outcome. Given
the same rules in another order, the verdict is the same but for the order of the errors. -/
theorem Ledger.judge_settles {helpers : Registry} {t : Template} {c : CompiledTemplate}
    (hc : Template.analyze helpers t = .ok c) (hv : c.isValid) {l : Ledger} {s : Scope} {rules : List CompiledRule}
    (hm : ∀ r ∈ rules, r ∈ c.rules) (hn : rules.Nodup) {v : Verdict} (hj : (l.judge s rules).2 = .ok v) :
    (∃ ranked, Verdict.Settles t s rules ranked v) ∧
      ∀ order, order.Perm rules → ∀ other : Ledger, ∃ w, (other.judge s order).2 = .ok w ∧
        w.matched = v.matched ∧ w.winners = v.winners ∧ w.conflicts = v.conflicts ∧ w.stats = v.stats ∧
        w.errors.Perm v.errors := by
  have hf : ∀ r ∈ rules, r.Faithful := fun r hr => (CompiledTemplate.rules_faithful hc (hm r hr)).1
  have hindexes : (rules.map CompiledRule.index).Nodup :=
    hn.map_on fun a ha b hb => List.inj_on_of_nodup_map (CompiledTemplate.rules_index_nodup hc) (hm a ha) (hm b hb)
  refine ⟨Ledger.exists_settles hc hv hm hn hj, ?_⟩
  obtain ⟨tests, strengths, ht, hk, hs, rfl⟩ := Ledger.judge_eq_ok_iff.mp hj
  intro order hp other
  have hfo : ∀ r ∈ order, r.Faithful := fun r hr => hf r (hp.mem_iff.mp hr)
  obtain ⟨others, hto, hperm⟩ := ht.perm hp
  have hranked : Verdict.ranked others = Verdict.ranked tests :=
    CompiledRule.eq_of_perm_of_outranks
      ((hto.ranked_perm hfo).trans ((hp.filter _).trans (ht.ranked_perm hf).symm))
      (hto.ranked_order hfo ((hp.map _).nodup_iff.mpr hindexes)) (ht.ranked_order hf hindexes)
  refine ⟨Verdict.assemble others strengths,
    Ledger.judge_eq_ok_iff.mpr ⟨others, strengths, hto, hranked ▸ hk, hranked ▸ hs, rfl⟩, ?_⟩
  simp only [Verdict.assemble, hranked, Verdict.totals_perm hperm, true_and]
  exact (hperm.filterMap _).append_right _

namespace Verdict

/-- A rule with the parts that decide whether it wins. -/
def plainRule (id condition group : String) (priority : Int) : Rule where
  id := id
  condition := .text condition
  animation := { plugin := .text "fade" }
  priority := .int priority
  intensity := .float 1
  intensityExpression := .null
  group := .text group
  enabled := .bool true
  name := .null
  description := .null

/-- Two rules that hold everywhere, the second with the more clauses, and a rule that has no outcome. -/
def layered : Template where
  id := "layered"
  rules := [plainRule "plain" "true" "base" 1, plainRule "precise" "wordIndex == 0" "base" 1,
    plainRule "loud" "word.loud" "accent" 2]
  declarations := []
  name := .null
  version := none
  metadata := []

/-- A place without a word. -/
def nowhere : Scope := ⟨Context.forVariables ⟨[], [], none⟩ [], ⟨[]⟩⟩

theorem layered_settles : ∃ c v, Template.analyze ⟨[]⟩ layered = .ok c ∧ c.isValid = true ∧ c.rules.length = 3 ∧
    (({} : Ledger).judge nowhere c.rules.reverse).2 = .ok v ∧
    (∃ ranked, Settles layered nowhere c.rules.reverse ranked v) ∧
    ∀ order, order.Perm c.rules.reverse → ∀ other : Ledger, ∃ w, (other.judge nowhere order).2 = .ok w ∧
      w.matched = v.matched ∧ w.winners = v.winners ∧ w.conflicts = v.conflicts ∧ w.stats = v.stats ∧
      w.errors.Perm v.errors := by
  obtain ⟨c, hc, hv⟩ : ∃ c, Template.analyze ⟨[]⟩ layered = .ok c ∧ c.isValid = true :=
    exists_ok_of_any (by decide +kernel)
  obtain ⟨-, -, -, found, hfound, hrules, -⟩ := Template.analyze_eq_ok hc
  obtain ⟨found', hfound', hparts⟩ : ∃ found, Template.rulesFrom ⟨[]⟩ [] "layered" [] 0 layered.rules = .ok found ∧
      ((found.parts.filter fun r => r.rule.enabled.truthy).length == 3 &&
        found.parts.all fun r => (r.test nowhere).isOk && (r.strength nowhere).isOk) = true :=
    exists_ok_of_any (by decide +kernel)
  obtain rfl : found = found' := Except.ok.inj (hfound.symm.trans hfound')
  simp only [Bool.and_eq_true, beq_iff_eq, List.all_eq_true] at hparts
  have hmem : ∀ r ∈ c.rules.reverse, r ∈ c.rules := fun r hr => List.mem_reverse.mp hr
  have hgood : ∀ r ∈ c.rules.reverse, (r.test nowhere).isOk = true ∧ (r.strength nowhere).isOk = true := fun r hr =>
    hparts.2 r (List.mem_filter.mp ((CompiledRule.sorted_perm _).mem_iff.mp (hrules ▸ hmem r hr))).1
  obtain ⟨v, hj⟩ := Ledger.judge_returns {} (fun r hr => (CompiledTemplate.rules_valid hc hv (hmem r hr)).1)
    (fun r hr => exists_ok_of_isOk (hgood r hr).1) (fun r hr => exists_ok_of_isOk (hgood r hr).2)
  have hn : c.rules.reverse.Nodup := List.nodup_reverse.mpr (.of_map _ (CompiledTemplate.rules_index_nodup hc))
  have hlength : c.rules.length = 3 := by rw [hrules, (CompiledRule.sorted_perm _).length_eq, hparts.1]
  exact ⟨c, v, hc, hv, hlength, hj, Ledger.judge_settles hc hv hmem hn hj⟩

end Verdict
end CaptionAnimation
