import CaptionAnimation.Helper.Standard
import CaptionAnimation.Proofs.Evaluation.Resolution
import CaptionAnimation.Proofs.Selection.Options
import CaptionAnimation.Proofs.Selection.Places
import CaptionAnimation.Proofs.Selection.Variables
import CaptionAnimation.Proofs.Selection.Winners
import CaptionAnimation.Proofs.Template.References

/-! # Validation is sound for evaluation

Computing the variables of a template gives every one of them a value, if only null. What validation finds to be
covered is therefore there when the template is applied: no rule of a valid template, and no variable without a
warning, fails for the lack of something that it refers to. -/
namespace CaptionAnimation

open Evaluation Expression

/-! ## Values of variables -/

namespace VariableRun

variable {helpers : Registry} {t : Transcript} {run run' : VariableRun}

/-- The names have values. -/
def Has (run : VariableRun) (names : List String) : Prop :=
  ∀ name ∈ names, ∃ v, Entries.get? run.values name = some v

theorem evaluate_values {v : CompiledVariable} {keep : Value → VariableRun → VariableRun} {u : Unit}
    (hkeep : ∀ value run, (keep value run).values = run.values) (h : run.evaluate helpers t v keep = (run', .ok u)) :
    ∃ value, run'.values = Entries.put (.text v.name) value run.values := by
  rw [evaluate_eq] at h
  split at h
  · next value _ =>
    obtain ⟨rfl, -⟩ := Prod.mk.inj h
    exact ⟨value, hkeep _ _⟩
  · cases (Prod.mk.inj h).2
  · obtain ⟨rfl, -⟩ := Prod.mk.inj h
    exact ⟨.null, rfl⟩

/-- Computing a variable, or finding its kept value, puts a value under its name. -/
theorem step_values {v : CompiledVariable} {key : VariableKey} {u : Unit}
    (h : run.step helpers t v key = (run', .ok u)) :
    ∃ value, run'.values = Entries.put (.text v.name) value run.values := by
  unfold step at h
  split at h
  · exact evaluate_values (fun _ _ => rfl) h
  · split at h
    · next value _ _ =>
      obtain ⟨rfl, -⟩ := Prod.mk.inj h
      exact ⟨value, rfl⟩
    · obtain ⟨value, hvalues⟩ := evaluate_values (by intro _ _; rfl) h
      exact ⟨value, hvalues⟩

theorem Has.step {names : List String} {v : CompiledVariable} {key : VariableKey} {u : Unit} (hnames : run.Has names)
    (h : run.step helpers t v key = (run', .ok u)) : run'.Has (v.name :: names) := by
  obtain ⟨value, hvalues⟩ := step_values h
  intro name hname
  rw [hvalues]
  by_cases hn : name = v.name
  · exact ⟨value, hn ▸ Entries.get?_put_self _ _ _⟩
  · rw [Entries.get?_put_of_ne hn]
    exact hnames name (List.mem_of_ne_of_mem hn hname)

theorem Has.computeFrom {names : List String} {template : CompiledTemplate} {fingerprint : String}
    {vs : List CompiledVariable} (hnames : run.Has names)
    (h : computeFrom helpers template t fingerprint vs run = (run', .ok ())) :
    run'.Has (vs.map CompiledVariable.name ++ names) := by
  induction vs generalizing run names with
  | nil =>
    obtain ⟨rfl, -⟩ := Prod.mk.inj h
    exact hnames
  | cons v rest ih =>
    rw [VariableRun.computeFrom] at h
    split at h
    · next next hstep =>
      intro name hname
      refine ih (hnames.step hstep) h name ?_
      simp only [List.map_cons, List.cons_append, List.mem_cons, List.mem_append] at hname ⊢
      tauto
    · cases (Prod.mk.inj h).2

/-- A computation that comes to its end gives every variable a value. -/
theorem has_of_compute {template : CompiledTemplate} {cache : Option VariableCache}
    (h : compute helpers template t cache = (run, .ok ())) :
    run.Has (template.declarations.map CompiledVariable.name) := by
  unfold compute at h
  dsimp only at h
  split at h
  · next hempty =>
    rw [List.isEmpty_iff.mp hempty]
    nofun
  · split at h
    · cases (Prod.mk.inj h).2
    · have hstart : ∀ start : VariableRun, start.Has [] := fun _ => nofun
      simpa using (hstart _).computeFrom h

end VariableRun

/-! ## Names that expressions start from -/

theorem PlacedWord.root_context (p : PlacedWord) (t : Transcript) (bindings : Entries) {name : String}
    (h : name ∈ Context.rootNames) : ∃ v, (p.context t bindings).root name = .ok v := by
  simp only [Context.rootNames, List.mem_cons, List.not_mem_nil, or_false] at h
  rcases h with rfl | rfl | rfl | rfl | rfl | rfl | rfl | rfl | rfl <;> exact ⟨_, rfl⟩

theorem Context.root_forVariables (t : Transcript) (bindings : Entries) {name : String}
    (h : name ∈ Context.rootNames) (hw : name ∉ Context.wordRootNames) :
    ∃ v, (Context.forVariables t bindings).root name = .ok v := by
  simp only [Context.rootNames, Context.wordRootNames, List.mem_cons, List.not_mem_nil, or_false] at h hw
  rcases h with rfl | rfl | rfl | rfl | rfl | rfl | rfl | rfl | rfl <;> first | exact ⟨_, rfl⟩ | simp at hw

/-! ## Valid templates -/

namespace CompiledTemplate

variable {helpers : Registry} {t : Template} {c : CompiledTemplate}

theorem not_isError_of_valid (hv : c.isValid) {i : Issue} (hi : i ∈ c.issues) : ¬ i.isError := by
  intro he
  have herr : i ∈ c.errors := List.mem_filter.mpr ⟨hi, he⟩
  rw [List.isEmpty_iff.mp hv] at herr
  cases herr

theorem variableIssues_subset (h : Template.analyze helpers t = .ok c) :
    (Template.variablesFrom helpers (t.declarations.map Variable.name) [] 0 t.declarations).issues ⊆ c.issues := by
  unfold Template.analyze at h
  obtain ⟨found, -, h⟩ := bind_eq_ok_iff.mp h
  obtain rfl : _ = c := by simpa [pure, Except.pure] using h
  intro i hi
  simp [hi]

/-- The variables of a valid template are the declared ones, each compiled by itself. -/
theorem declarations_eq (h : Template.analyze helpers t = .ok c) (hv : c.isValid) :
    c.declarations = t.declarations.zipIdx.map fun d => Template.variableAt d.1 d.2 := by
  obtain ⟨-, -, hd, -⟩ := Template.analyze_eq_ok h
  rw [hd]
  exact Template.variablesFrom_parts fun i hi => not_isError_of_valid hv (variableIssues_subset h hi)

theorem map_name_declarations (h : Template.analyze helpers t = .ok c) (hv : c.isValid) :
    c.declarations.map CompiledVariable.name = t.declarations.map Variable.name := by
  rw [declarations_eq h hv, List.map_map]
  conv_rhs => rw [← List.zipIdx_map_fst 0 t.declarations, List.map_map]
  rfl

/-- The conditions and intensities of a valid template are covered by its variables. -/
theorem rules_covers (h : Template.analyze helpers t = .ok c) (hv : c.isValid) {r : CompiledRule} (hr : r ∈ c.rules)
    {e : Expr} (he : r.condition = some e ∨ r.intensity = some e) :
    Template.Covers helpers (c.declarations.map CompiledVariable.name) e := by
  rw [map_name_declarations h hv]
  obtain ⟨-, -, -, found, hfound, hrules, hissues⟩ := Template.analyze_eq_ok h
  rw [hrules, CompiledRule.sorted, List.mem_mergeSort, List.mem_filter] at hr
  obtain ⟨seen, index, declaration, own, hown, hmem, hsub⟩ := Template.exists_ruleFindings hfound hr.1
  exact Template.ruleFindings_covers hown (fun i hi => not_isError_of_valid hv (hissues (hsub hi))) hmem he

/-- A variable of a valid template about which there is no warning has an expression that is covered by the variables
before it and starts from no name that needs a word. -/
theorem variable_covers (h : Template.analyze helpers t = .ok c) (hv : c.isValid) {before after : List CompiledVariable}
    {v : CompiledVariable} (hd : c.declarations = before ++ v :: after)
    (hw : ∀ i ∈ c.warnings, i.variableName ≠ some v.name) :
    ∃ e, v.expression = some e ∧ Template.Covers helpers (before.map CompiledVariable.name) e ∧
      ∀ name ∈ e.rootNames, name ∉ Context.wordRootNames := by
  have hsame := Template.analyze_eq_ok h
  obtain ⟨seen, index, hparts, hsub, hseen⟩ := Template.exists_variableFindings (hsame.2.2.1.symm.trans hd)
  have hquiet : (Template.variableFindings helpers (t.declarations.map Variable.name) seen index v.declaration).issues =
      [] := by
    refine List.eq_nil_iff_forall_not_mem.mpr fun i hi => ?_
    have hmem := variableIssues_subset h (hsub hi)
    obtain ⟨cause, -, hcause⟩ := List.mem_map.mp hi
    refine hw i (List.mem_filter.mpr ⟨hmem, ?_⟩) (hcause ▸ rfl)
    simpa using not_isError_of_valid hv hmem
  obtain ⟨e, he, hcovers, hearlier, hwordless⟩ := Template.variableFindings_covers hquiet
  have hv' : v.expression = some e := by
    rw [← he]
    exact (congrArg CompiledVariable.expression (List.head_eq_of_cons_eq hparts)).symm
  refine ⟨e, hv', ⟨hcovers.roots, fun key hkey => ?_, hcovers.calls⟩, hwordless⟩
  rcases hseen key (hearlier key hkey (hcovers.lookups key hkey)) with hnone | hbefore
  · cases hnone
  · exact hbefore

/-- What validation finds covered is there: no condition and no intensity of a valid template fails at a word for the
lack of something that it refers to, whatever cache the variables were computed with. Nor does a variable without a
warning, where the variables before it have their values. -/
theorem references_resolve (h : Template.analyze helpers t = .ok c) (hv : c.isValid) (transcript : Transcript) :
    (∀ cache run, VariableRun.compute helpers c transcript cache = (run, .ok ()) →
      ∀ p ∈ transcript.placedWords, ∀ r ∈ c.rules, ∃ e, r.condition = some e ∧
        Resolved ⟨p.context transcript run.values, helpers⟩ e ∧
          ∀ intensity, r.intensity = some intensity → Resolved ⟨p.context transcript run.values, helpers⟩ intensity) ∧
    ∀ before v after, c.declarations = before ++ v :: after → (∀ i ∈ c.warnings, i.variableName ≠ some v.name) →
      ∃ e, v.expression = some e ∧
        ∀ cache run, VariableRun.compute helpers { c with declarations := before } transcript cache = (run, .ok ()) →
          Resolved ⟨.forVariables transcript.placed run.values, helpers⟩ e := by
  constructor
  · intro cache run hrun p _ r hr
    have hvalues := VariableRun.has_of_compute hrun
    have hresolved : ∀ e, r.condition = some e ∨ r.intensity = some e →
        Resolved ⟨p.context transcript run.values, helpers⟩ e := fun e he =>
      have hcovers := rules_covers h hv hr he
      resolved_of_provides ⟨fun name hname => p.root_context _ _ (hcovers.roots name hname),
        fun key hkey => hvalues key (hcovers.lookups key hkey), hcovers.calls⟩
    obtain ⟨-, e, -, -, he, -⟩ := (rules_faithful h hr).1.condition
    exact ⟨e, he, hresolved e (.inl he), fun intensity hi => hresolved intensity (.inr hi)⟩
  · intro before v after hd hw
    obtain ⟨e, he, hcovers, hwordless⟩ := variable_covers h hv hd hw
    refine ⟨e, he, fun cache run hrun => ?_⟩
    have hvalues := VariableRun.has_of_compute hrun
    exact resolved_of_provides ⟨fun name hname => Context.root_forVariables _ _ (hcovers.roots name hname)
      (hwordless name hname), fun key hkey => hvalues key (hcovers.lookups key hkey), hcovers.calls⟩

/-- A template whose rule looks up a variable that is computed from another one. -/
def chained : Template where
  id := "chained"
  rules := [{ Verdict.plainRule "late" "variables['next'] > 1" "base" 1 with
    intensityExpression := .text "min(1, variables.next)" }]
  declarations := [{ name := "count", expression := .text "audioData.totalWords" },
    { name := "next", expression := .text "variables.count + 1" }]
  name := .null
  version := none
  metadata := []

/-- A transcript of one word without a text. -/
def murmur : Transcript where
  segments := [⟨[⟨"", ⟨0.25, none⟩, ⟨0.5, none⟩, ⟨1, none⟩, none, []⟩], none, none, none, .null, .null, .null, []⟩]
  metadata := []
  id := none

theorem chained_resolves :
    ∃ c count next before run, Template.analyze .standard chained = .ok c ∧ c.isValid = true ∧
      c.declarations = [count, next] ∧ c.rules.length = 1 ∧ (∀ i ∈ c.warnings, i.variableName ≠ some next.name) ∧
      VariableRun.compute .standard { c with declarations := [count] } murmur none = (before, .ok ()) ∧
      VariableRun.compute .standard c murmur none = (run, .ok ()) ∧
      (∃ e, next.expression = some e ∧ Resolved ⟨.forVariables murmur.placed before.values, .standard⟩ e) ∧
      ∀ p ∈ murmur.placedWords, ∀ r ∈ c.rules, ∃ e, r.condition = some e ∧
        Resolved ⟨p.context murmur run.values, .standard⟩ e := by
  obtain ⟨c, hc, hgood⟩ : ∃ c, Template.analyze .standard chained = .ok c ∧
      (c.isValid && c.declarations.length == 2 && c.rules.length == 1 && c.warnings.isEmpty &&
        (VariableRun.compute .standard { c with declarations := c.declarations.take 1 } murmur none).2.isOk &&
        (VariableRun.compute .standard c murmur none).2.isOk) = true :=
    exists_ok_of_any (by decide +kernel)
  simp only [Bool.and_eq_true, beq_iff_eq, List.isEmpty_iff] at hgood
  obtain ⟨⟨⟨⟨⟨hv, hlength⟩, hrules⟩, hwarnings⟩, hbefore⟩, hrun⟩ := hgood
  obtain ⟨count, next, hd⟩ := List.length_eq_two.mp hlength
  rw [hd] at hbefore
  obtain ⟨u, hbefore⟩ := exists_ok_of_isOk hbefore
  obtain ⟨u', hrun⟩ := exists_ok_of_isOk hrun
  have hquiet : ∀ i ∈ c.warnings, i.variableName ≠ some next.name := by simp [hwarnings]
  obtain ⟨hwords, hnext⟩ := references_resolve hc hv murmur
  obtain ⟨e, he, hresolved⟩ := hnext [count] next [] hd hquiet
  refine ⟨c, count, next, _, _, hc, hv, hd, hrules, hquiet, Prod.ext rfl hbefore, Prod.ext rfl hrun,
    ⟨e, he, hresolved none _ (Prod.ext rfl hbefore)⟩, fun p hp r hr => ?_⟩
  obtain ⟨e, he, hcondition, -⟩ := hwords none _ (Prod.ext rfl hrun) p hp r hr
  exact ⟨e, he, hcondition⟩

end CompiledTemplate
end CaptionAnimation
