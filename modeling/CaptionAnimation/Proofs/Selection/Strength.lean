import CaptionAnimation.Proofs.Number.Undefined
import CaptionAnimation.Proofs.Selection.Omission

/-! # Strengths

A winner is as strong as its intensity expression says when that is a finite number, and else as strong as it is
declared to be. In a valid template the declared intensity is a finite number too, so that every strength is finite. A
verdict reports each expression that is not followed once, under the rule it belongs to. -/
namespace CaptionAnimation

open Evaluation

namespace Rule

/-- The intensity expression has a number for its value, which as a double is this finite one. -/
def IntensityAt (s : Scope) (r : Rule) (x : Float) : Prop :=
  ∃ n, evaluateText s r.intensityExpression = .ok (.number n) ∧ n.toFloat = .ok x ∧ x.isFinite = true

/-- How strongly a rule applies at a place, with the errors to report. -/
inductive Applies (s : Scope) (r : Rule) : Float → List RuleError → Prop where
  | declared {x : Float} : r.intensityExpression = .null → r.intensity.toFloat = .ok x → Applies s r x []
  | computed {x : Float} : r.intensityExpression ≠ .null → r.IntensityAt s x → Applies s r x []
  | replaced {x : Float} {message : String} : r.intensityExpression ≠ .null → (∀ y, ¬ r.IntensityAt s y) →
      r.intensity.toFloat = .ok x → Applies s r x [⟨r.id, message⟩]

end Rule

namespace CompiledRule

variable {r : CompiledRule} {s : Scope}

end CompiledRule

/-- A rule applies with a finite strength when its declared intensity is finite. -/
theorem Rule.Applies.isFinite {s : Scope} {r : Rule} {x : Float} {errors : List RuleError} (h : r.Applies s x errors)
    (hr : ∃ n, r.intensity = .number n ∧ n.isFinite = true) : x.isFinite = true := by
  have hdeclared (hx : r.intensity.toFloat = .ok x) : x.isFinite = true := by
    obtain ⟨n, hn, hfinite⟩ := hr
    obtain ⟨y, hy, hyf⟩ := Number.toFloat_of_isFinite hfinite
    rw [hn] at hx
    obtain rfl := Except.ok.inj (hx.symm.trans hy)
    exact hyf
  cases h with
  | declared _ hx => exact hdeclared hx
  | computed _ hx =>
    obtain ⟨-, -, -, hxf⟩ := hx
    exact hxf
  | replaced _ _ hx => exact hdeclared hx

theorem Template.compiledAt_of_mem {template : String} {rules : List Rule} {index : ℕ} {r : CompiledRule}
    (h : r ∈ compiledFrom template index rules) : ∃ i, r ∈ compiledAt template i r.rule := by
  induction rules generalizing index with
  | nil => cases h
  | cons declared rest ih =>
    rcases List.mem_append.mp h with h | h
    · exact ⟨index, (mem_compileRule h).1.symm ▸ h⟩
    · exact ih h

namespace CompiledTemplate

/-- A rule of a compiled template is enabled, and is what compiling it gives at its place. -/
theorem enabled_and_compiled {helpers : Registry} {t : Template} {c : CompiledTemplate}
    (h : Template.analyze helpers t = .ok c) {r : CompiledRule} (hr : r ∈ c.rules) :
    r.rule.enabled.truthy = true ∧ ∃ index, r ∈ Template.compiledAt t.id index r.rule := by
  have hmem := (CompiledRule.sorted_perm _).mem_iff.mp (Template.rules_of_analyze h ▸ hr)
  obtain ⟨hcompiled, henabled⟩ := List.mem_filter.mp hmem
  exact ⟨henabled, Template.compiledAt_of_mem hcompiled⟩

/-- The rules of a valid template have different ids. -/
theorem rules_id_nodup {helpers : Registry} {t : Template} {c : CompiledTemplate} (h : Template.analyze helpers t = .ok c)
    (hv : c.isValid = true) : (c.rules.map CompiledRule.id).Nodup := by
  have hids := (Template.WellFormed.of_analyze h hv).rules_nodup
  refine (rules_index_nodup h).of_map.map_on fun a ha b hb hab => ?_
  have hid (r : CompiledRule) (hr : r ∈ c.rules) : (t.rules.map Rule.id)[r.index]? = some r.id := by
    rw [List.getElem?_map, (rules_faithful h hr).2]
    rfl
  have hbound : a.index < (t.rules.map Rule.id).length := (List.getElem?_eq_some_iff.mp (hid a ha)).1
  have hindex : a.index = b.index := (List.getElem?_inj hbound hids).mp (by rw [hid a ha, hid b hb, hab])
  exact List.inj_on_of_nodup_map (rules_index_nodup h) ha hb hindex

end CompiledTemplate

namespace Verdict

variable {s : Scope}

section Tests

variable {rules : List CompiledRule} {tests : List (CompiledRule × Test)}

end Tests

end Verdict
end CaptionAnimation
