import CaptionAnimation.Proofs.Template.Compilation

/-! # What validation says about references

In a valid template every condition and intensity starts from known names, looks up declared variables and calls known
helpers with accepted argument counts. A variable without a warning looks up the variables before it only, and starts
from no name that needs a word. -/
namespace CaptionAnimation

open Expression

theorem mem_sortedNames {name : String} {names : List String} : name ∈ sortedNames names ↔ name ∈ names := by
  rw [sortedNames, List.mem_mergeSort, List.mem_eraseDups]

namespace Template

/-- An expression starts from known names, looks up declared variables, and calls known helpers with accepted argument
counts. -/
structure Covers (helpers : Registry) (declared : List String) (e : Expr) : Prop where
  roots : ∀ name ∈ e.rootNames, name ∈ Context.rootNames
  lookups : ∀ key ∈ e.variableNames, key ∈ declared
  calls : ∀ call ∈ e.calls, ∃ helper, helpers.find? call.1 = some helper ∧ helper.accepts call.2 = true

theorem severity_of_mem_referenceCauses {helpers : Registry} {declared : List String} {site : Site} {e : Expr}
    {cause : Issue.Cause} (h : cause ∈ referenceCauses helpers declared site e) : cause.severity = .error := by
  unfold referenceCauses at h
  simp only [List.mem_append, List.mem_map, List.mem_filterMap] at h
  obtain (⟨name, -, rfl⟩ | ⟨name, -, rfl⟩) | ⟨call, -, h⟩ := h
  · rfl
  · rfl
  · split at h
    · obtain rfl := Option.some.inj h
      rfl
    · split at h
      · cases h
      · obtain rfl := Option.some.inj h
        rfl

theorem referenceCauses_eq_nil_iff {helpers : Registry} {declared : List String} (site : Site) {e : Expr} :
    referenceCauses helpers declared site e = [] ↔ Covers helpers declared e := by
  unfold referenceCauses
  simp only [List.append_eq_nil_iff, List.map_eq_nil_iff, List.filter_eq_nil_iff, List.filterMap_eq_nil_iff,
    mem_sortedNames, Bool.not_eq_true, Bool.not_eq_false', List.contains_iff_mem]
  constructor
  · rintro ⟨⟨hroots, hlookups⟩, hcalls⟩
    refine ⟨hroots, hlookups, fun call hc => ?_⟩
    have hnone := hcalls call hc
    cases hfind : helpers.find? call.1 with
    | none => simp [hfind] at hnone
    | some helper => exact ⟨helper, rfl, by simpa [hfind] using hnone⟩
  · intro h
    refine ⟨⟨h.roots, h.lookups⟩, fun call hc => ?_⟩
    obtain ⟨helper, hfind, haccepts⟩ := h.calls call hc
    simp [hfind, haccepts]

/-- An expression about which there is no error is covered. -/
theorem checkExpression_covers {helpers : Registry} {declared : List String} {site : Site} {source : Value} {e : Expr}
    (he : (checkExpression helpers declared site source).2 = some e)
    (h : ∀ cause ∈ (checkExpression helpers declared site source).1, cause.severity ≠ .error) :
    Covers helpers declared e := by
  have hcauses : (checkExpression helpers declared site source).1 = referenceCauses helpers declared site e := by
    unfold checkExpression at he ⊢
    split at he
    · cases he
    · split at he
      · cases he
      · obtain rfl := Option.some.inj he
        rfl
  rw [hcauses] at h
  exact (referenceCauses_eq_nil_iff site).mp
    (List.eq_nil_iff_forall_not_mem.mpr fun cause hc => h cause hc (severity_of_mem_referenceCauses hc))

theorem exists_of_checkExpression {helpers : Registry} {declared : List String} {site : Site} {source : Value}
    (h : (checkExpression helpers declared site source).1 = []) :
    ∃ e, (checkExpression helpers declared site source).2 = some e := by
  unfold checkExpression at h ⊢
  split at h
  · cases h
  · split at h
    · cases h
    · next e _ => exact ⟨e, rfl⟩

/-! ## Rules -/

theorem intensity_of_mem_compileRule {template : String} {index : Nat} {declared : Rule}
    {condition intensity : Option Expr} {r : CompiledRule}
    (h : r ∈ compileRule template index declared condition intensity) : r.intensity = intensity := by
  unfold compileRule at h
  split at h
  · split at h
    · obtain rfl := List.mem_singleton.mp h
      rfl
    · cases h
  · cases h

theorem conditionFindings_eq {helpers : Registry} {declared : List String} {label : String} {condition : Value} {e : Expr}
    (h : (conditionFindings helpers declared label condition).2 = some e) :
    conditionFindings helpers declared label condition =
      checkExpression helpers declared (.condition label) condition := by
  unfold conditionFindings at h ⊢
  split at h
  · cases h
  · rfl

theorem intensityFindings_eq {helpers : Registry} {declared : List String} {label : String} {intensity : Value} {e : Expr}
    (h : (intensityFindings helpers declared label intensity).2 = some e) :
    intensityFindings helpers declared label intensity =
      checkExpression helpers declared (.intensity label) intensity := by
  unfold intensityFindings at h ⊢
  split at h
  · cases h
  · rfl

/-- The condition and the intensity of a rule without errors are covered. -/
theorem ruleFindings_covers {helpers : Registry} {declared seen : List String} {template : String} {index : Nat}
    {declaration : Rule} {found : Findings CompiledRule}
    (h : ruleFindings helpers declared template seen index declaration = .ok found)
    (hv : ∀ i ∈ found.issues, ¬ i.isError) {r : CompiledRule} (hr : r ∈ found.parts) {e : Expr}
    (he : r.condition = some e ∨ r.intensity = some e) : Covers helpers declared e := by
  obtain ⟨priority, intensity, animation, -, -, -, rfl⟩ := ruleFindings_eq_ok_iff.mp h
  simp only [List.mem_append, List.mem_map] at hv
  rcases he with he | he
  · obtain ⟨-, -, -, -, e', hcondition, hre, -⟩ := mem_compileRule hr
    obtain rfl : e = e' := Option.some.inj (he.symm.trans hre)
    have heq := conditionFindings_eq hcondition
    refine checkExpression_covers (heq ▸ hcondition) fun cause hc herr => ?_
    exact hv ⟨cause, some (ruleLabel index declaration), none⟩
      (.inr ⟨cause, .inl (heq ▸ hc), rfl⟩) (decide_eq_true herr)
  · have hintensity := (intensity_of_mem_compileRule hr).symm.trans he
    have heq := intensityFindings_eq hintensity
    refine checkExpression_covers (heq ▸ hintensity) fun cause hc herr => ?_
    exact hv ⟨cause, some (ruleLabel index declaration), none⟩
      (.inr ⟨cause, .inr (heq ▸ hc), rfl⟩) (decide_eq_true herr)

/-- Each compiled rule comes from the findings on its declaration. -/
theorem exists_ruleFindings {helpers : Registry} {declared : List String} {template : String} {rules : List Rule}
    {seen : List String} {index : Nat} {found : Findings CompiledRule}
    (h : rulesFrom helpers declared template seen index rules = .ok found) {r : CompiledRule} (hr : r ∈ found.parts) :
    ∃ seen index declaration own, ruleFindings helpers declared template seen index declaration = .ok own ∧
      r ∈ own.parts ∧ own.issues ⊆ found.issues := by
  induction rules generalizing seen index found with
  | nil =>
    obtain rfl := Except.ok.inj h
    cases hr
  | cons declaration rest ih =>
    obtain ⟨head, tail, hhead, htail, rfl⟩ := rulesFrom_cons_eq_ok_iff.mp h
    rcases List.mem_append.mp hr with hr | hr
    · exact ⟨seen, index, declaration, head, hhead, hr, List.subset_append_left _ _⟩
    · obtain ⟨seen, index, declaration, own, hown, hmem, hsub⟩ := ih htail hr
      exact ⟨seen, index, declaration, own, hown, hmem, List.Subset.trans hsub (List.subset_append_right _ _)⟩

/-! ## Variables -/

/-- A variable about which there is nothing to say has an expression. It is covered, looks up variables before it only,
and starts from no name that needs a word. -/
theorem variableFindings_covers {helpers : Registry} {declared seen : List String} {index : Nat} {v : Variable}
    (h : (variableFindings helpers declared seen index v).issues = []) :
    ∃ e, (checkExpression helpers declared (.variable v.name) v.expression).2 = some e ∧ Covers helpers declared e ∧
      (∀ key ∈ e.variableNames, key ∈ declared → key ∈ seen) ∧ ∀ name ∈ e.rootNames, name ∉ Context.wordRootNames := by
  obtain ⟨hcauses, hdoubts⟩ : (checkExpression helpers declared (.variable v.name) v.expression).1 = [] ∧
      ((checkExpression helpers declared (.variable v.name) v.expression).2.map
        (variableWarnings declared seen v.name)).getD [] = [] :=
    List.append_eq_nil_iff.mp (List.map_eq_nil_iff.mp h)
  obtain ⟨e, he⟩ := exists_of_checkExpression hcauses
  have hcovers : Covers helpers declared e :=
    checkExpression_covers he (by rw [hcauses]; exact List.forall_mem_nil _)
  rw [he, Option.map_some, Option.getD_some, variableWarnings] at hdoubts
  obtain ⟨hearly, hwords⟩ := List.append_eq_nil_iff.mp hdoubts
  simp only [List.map_eq_nil_iff, List.filter_eq_nil_iff, mem_sortedNames, Bool.and_eq_true, Bool.not_eq_true',
    List.contains_iff_mem, not_and, Bool.not_eq_false] at hearly
  refine ⟨e, he, hcovers, hearly, fun name hname hword => ?_⟩
  have hmem : name ∈ (sortedNames e.rootNames).filter Context.wordRootNames.contains :=
    List.mem_filter.mpr ⟨mem_sortedNames.mpr hname, List.contains_iff_mem.mpr hword⟩
  rw [if_neg (by rw [List.isEmpty_iff]; exact List.ne_nil_of_mem hmem)] at hwords
  cases hwords

/-- Each compiled variable comes from the findings on its declaration, made when the names before it were seen. -/
theorem exists_variableFindings {helpers : Registry} {declared seen : List String} {index : Nat}
    {declarations : List Variable} {before after : List CompiledVariable} {v : CompiledVariable}
    (h : (variablesFrom helpers declared seen index declarations).parts = before ++ v :: after) :
    ∃ seen' index', (variableFindings helpers declared seen' index' v.declaration).parts = [v] ∧
      (variableFindings helpers declared seen' index' v.declaration).issues ⊆
        (variablesFrom helpers declared seen index declarations).issues ∧
      ∀ name ∈ seen', name ∈ seen ∨ name ∈ before.map fun u => u.declaration.name := by
  induction declarations generalizing seen index before with
  | nil => simp [variablesFrom] at h
  | cons declaration rest ih =>
    unfold variablesFrom at h ⊢
    split at h
    · next hn =>
      rw [if_pos hn]
      obtain ⟨seen', index', hparts, hsub, hseen⟩ := ih h
      exact ⟨seen', index', hparts, List.Subset.trans hsub (List.subset_append_right _ _), hseen⟩
    · next hn =>
      rw [if_neg hn]
      split at h
      · next hs =>
        rw [if_pos hs]
        obtain ⟨seen', index', hparts, hsub, hseen⟩ := ih h
        exact ⟨seen', index', hparts, List.Subset.trans hsub (List.subset_append_right _ _), hseen⟩
      · next hs =>
        rw [if_neg hs]
        cases before with
        | nil =>
          obtain ⟨rfl, -⟩ := List.cons.inj h
          exact ⟨seen, index, rfl, List.subset_append_left _ _, fun name hm => .inl hm⟩
        | cons u before =>
          obtain ⟨hu, htail⟩ := List.cons.inj h
          obtain rfl : declaration = u.declaration := congrArg CompiledVariable.declaration hu
          obtain ⟨seen', index', hparts, hsub, hseen⟩ := ih htail
          refine ⟨seen', index', hparts, List.Subset.trans hsub (List.subset_append_right _ _), fun name hm => ?_⟩
          rcases hseen name hm with hm | hm
          · rcases List.mem_cons.mp hm with rfl | hm
            · exact .inr List.mem_cons_self
            · exact .inl hm
          · exact .inr (List.mem_cons_of_mem _ hm)

end Template
end CaptionAnimation
