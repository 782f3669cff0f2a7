import CaptionAnimation.Proofs.Selection.Rejection
import CaptionAnimation.Proofs.Selection.Strength
import CaptionAnimation.Selection.Output

/-! # What is handed to the renderer

Everything that a new session hands to the renderer is well-formed, whatever it is given: each animation is that of an
enabled rule of the template that the options admit, it has the form that the renderer expects, and it applies with the
finite strength that its rule has at the word. Every result can be written as a map. -/
namespace CaptionAnimation

open Evaluation

/-! ## Runs -/

/-- One application goes on from another with verdicts on some words, in their order; more warnings may follow. -/
structure Application.Extends (a a' : Application) (verdicts : List (PlacedWord × Verdict)) : Prop where
  applied : a'.applied = a.applied ++ verdicts.flatMap fun (p, v) => v.winners.map fun w => ⟨w.rule, p.id, w.strength⟩
  warnings : ∃ later, a'.warnings =
    a.warnings ++ (verdicts.flatMap fun (p, v) => verdictWarnings p.id v) ++ later
  selections : a'.selections = a.selections.map (· ++ verdicts.map fun (p, v) => ⟨p.id, v.winners⟩)

namespace Application

variable {a a' : Application} {verdicts : List (PlacedWord × Verdict)}

theorem extends_nil (a : Application) : a.Extends a [] where
  applied := (List.append_nil _).symm
  warnings := ⟨[], by simp⟩
  selections := by simp

theorem extends_cut (a : Application) (deadline : String) (wordIndex totalWords : ℕ) :
    a.Extends (a.cut deadline wordIndex totalWords) [] where
  applied := (List.append_nil _).symm
  warnings := ⟨_, by rw [List.flatMap_nil, List.append_nil a.warnings]; rfl⟩
  selections := by simp [cut]

theorem Extends.of_skip (h : a.skip.Extends a' verdicts) : a.Extends a' verdicts := ⟨h.applied, h.warnings, h.selections⟩

theorem Extends.of_fail {id : String} {f : Fault} (h : (a.fail id f).Extends a' verdicts) : a.Extends a' verdicts :=
  ⟨h.applied, h.warnings, h.selections⟩

theorem Extends.of_add {p : PlacedWord} {v : Verdict} (h : (a.add p.id v).Extends a' verdicts) :
    a.Extends a' ((p, v) :: verdicts) where
  applied := by rw [h.applied, List.flatMap_cons, ← List.append_assoc]; rfl
  warnings := by
    obtain ⟨later, hlater⟩ := h.warnings
    exact ⟨later, by rw [hlater, List.flatMap_cons, ← List.append_assoc a.warnings]; rfl⟩
  selections := by
    rw [h.selections, add, Option.map_map]
    simp [Function.comp_def]

end Application

/-- A run that ends gives verdicts on words, in their order, however it ends. -/
theorem Course.Ends.exists_verdicts {c : Course} {words : List PlacedWord} {l l' : Ledger} {a a' : Application}
    (h : c.Ends words l a l' a') :
    ∃ verdicts, (verdicts.map Prod.fst).Sublist words ∧ (∀ x ∈ verdicts, (c.judge {} x.1).2 = .ok x.2) ∧
      a.Extends a' verdicts := by
  induction h with
  | @done _ a => exact ⟨[], .slnil, List.forall_mem_nil _, a.extends_nil⟩
  | @cut _ _ _ a => exact ⟨[], List.nil_sublist _, List.forall_mem_nil _, a.extends_cut _ _ _⟩
  | @skip p _ _ _ _ _ _ _ _ ih =>
    obtain ⟨verdicts, hsub, hv, hextends⟩ := ih
    exact ⟨verdicts, hsub.cons p, hv, hextends.of_skip⟩
  | @add p _ l _ _ _ _ v _ _ hjudge _ ih =>
    obtain ⟨verdicts, hsub, hv, hextends⟩ := ih
    have hown : (c.judge {} p).2 = .ok v := (Ledger.judge_snd {} l _ _).trans (congrArg Prod.snd hjudge)
    exact ⟨(p, v) :: verdicts, hsub.cons_cons p, List.forall_mem_cons.mpr ⟨hown, hv⟩, hextends.of_add⟩
  | @fail p _ _ _ _ _ _ _ _ _ _ _ ih =>
    obtain ⟨verdicts, hsub, hv, hextends⟩ := ih
    exact ⟨verdicts, hsub.cons p, hv, hextends.of_fail⟩

theorem Course.runFrom_verdicts (c : Course) {words : List PlacedWord} {l : Ledger} {a a' : Application}
    (h : (c.runFrom words l a).2 = .ok a') :
    ∃ verdicts, (verdicts.map Prod.fst).Sublist words ∧ (∀ x ∈ verdicts, (c.judge {} x.1).2 = .ok x.2) ∧
      a.Extends a' verdicts :=
  (ends_iff.mpr (Prod.ext rfl h)).exists_verdicts

namespace Session

theorem refuseStranger_eq_ok {data : Value} {o : Options} {a : Application} (h : refuseStranger data o = .ok a) :
    ∃ errors warnings, a = .refused errors warnings := by
  unfold refuseStranger at h
  split at h
  · cases h
  · split at h
    · cases h
    · obtain ⟨shown, -, h⟩ := bind_eq_ok_iff.mp h
      exact ⟨_, _, (Except.ok.inj h).symm⟩

theorem apply_of_stranger (s : Session) {template : TemplateSource} {data : Value}
    (h : template.stranger? = some data) (audio : Value) (options : OptionsSource) :
    ∃ errors warnings, s.apply template audio options = (s, .refused errors warnings) := by
  unfold apply
  rw [h]
  cases options.read s.settings with
  | error f => exact ⟨_, _, rfl⟩
  | ok outcome =>
    cases outcome with
    | error f => exact ⟨_, _, rfl⟩
    | ok o =>
      dsimp only
      cases ha : refuseStranger data o with
      | error f => exact ⟨_, _, rfl⟩
      | ok a =>
        obtain ⟨errors, warnings, rfl⟩ := refuseStranger_eq_ok ha
        exact ⟨errors, warnings, rfl⟩

/-- A call whose template or options cannot be read is refused, and leaves the session as it is. -/
theorem read_or_refused (s : Session) (template : TemplateSource) (audio : Value) (options : OptionsSource) :
    (template.stranger? = none ∧ ∃ t o, template.read = .ok t ∧ options.read s.settings = .ok (.ok o)) ∨
      ∃ errors warnings, s.apply template audio options = (s, .refused errors warnings) := by
  cases hknown : template.stranger? with
  | some data => exact .inr (s.apply_of_stranger hknown audio options)
  | none =>
    unfold apply
    rw [hknown]
    cases options.read s.settings with
    | error f => exact .inr ⟨_, _, rfl⟩
    | ok outcome =>
      cases template.read with
      | error f => cases outcome <;> exact .inr ⟨_, _, rfl⟩
      | ok t =>
        cases outcome with
        | error f => exact .inr ⟨_, _, rfl⟩
        | ok o => exact .inl ⟨rfl, t, o, rfl, rfl⟩

/-- What compiling a template keeps, and applying a compiled one, a call keeps. -/
theorem apply_keeps {P : Session → Prop} {s : Session}
    (hcompiled : ∀ t useCache, P s → P (s.compiled t useCache).1)
    (happlied : ∀ (s : Session) c t o, P s → P (s.applyCompiled c t o).1) (h : P s) (template : TemplateSource)
    (audio : Value) (options : OptionsSource) : P (s.apply template audio options).1 := by
  rcases s.read_or_refused template audio options with ⟨hknown, t, o, ht, ho⟩ | ⟨errors, warnings, hrefused⟩
  · have hkept := hcompiled t o.caching.truthy h
    rcases s.refused_or_applied hknown ht ho audio with ⟨errors, warnings, hrefused⟩ | ⟨c, given, -, -, -, happly⟩
    · rw [hrefused]
      exact hkept
    · have hleft := happlied _ c given.placed o hkept
      rw [happly]
      generalize (s.compiled t o.caching.truthy).1.applyCompiled c given.placed o = applied at hleft ⊢
      obtain ⟨s', outcome⟩ := applied
      cases outcome <;> exact hleft
  · rw [hrefused]
    exact h

/-- Applying a compiled template faults, unless the variables have values and the rules that take part are known. -/
theorem applyCompiled_returns (s : Session) (c : CompiledTemplate) (t : Transcript) (o : Options) :
    (∃ f, (s.applyCompiled c t o).2 = .error f) ∨
      ∃ run, VariableRun.compute s.helpers c t (if o.caching.truthy then some s.values else none) = (run, .ok ()) ∧
        ∃ rules, o.filterRules c.rules = .ok rules := by
  unfold applyCompiled
  dsimp only
  generalize VariableRun.compute s.helpers c t (if o.caching.truthy then some s.values else none) = computed
  obtain ⟨run, outcome⟩ := computed
  cases outcome with
  | error f => exact .inl ⟨f, rfl⟩
  | ok u =>
    cases o.filterRules c.rules with
    | error f => exact .inl ⟨f, rfl⟩
    | ok rules => exact .inr ⟨run, rfl, rules, rfl⟩

/-- A call gets as far as the words, or is refused. -/
theorem reaches_or_refused (s : Session) (template : TemplateSource) (audio : Value) (options : OptionsSource) :
    (∃ c t o run, s.Reaches template audio options c t o run) ∨
      ∃ errors warnings, (s.apply template audio options).2 = .refused errors warnings := by
  rcases s.read_or_refused template audio options with ⟨hknown, t, o, ht, ho⟩ | ⟨errors, warnings, hrefused⟩
  · rcases s.refused_or_applied hknown ht ho audio with ⟨errors, warnings, hrefused⟩ | ⟨c, given, hc, hv, hgiven, happly⟩
    · exact .inr ⟨errors, warnings, congrArg Prod.snd hrefused⟩
    · obtain ⟨hhelpers, hvalues⟩ := s.compiled_fst t o.caching.truthy
      rcases (s.compiled t o.caching.truthy).1.applyCompiled_returns c given.placed o with ⟨f, hf⟩ | ⟨run, hrun, hrules⟩
      · rw [happly]
        generalize (s.compiled t o.caching.truthy).1.applyCompiled c given.placed o = applied at hf ⊢
        obtain ⟨s', outcome⟩ := applied
        obtain rfl : outcome = .error f := hf
        exact .inr ⟨_, _, rfl⟩
      · rw [hhelpers, hvalues] at hrun
        exact .inl ⟨c, given.placed, o, run, hknown, ho, ⟨t, ht, hc⟩, hv, ⟨given, hgiven, rfl⟩, hrun, hrules⟩
  · exact .inr ⟨errors, warnings, congrArg Prod.snd hrefused⟩

end Session

/-! ## Maps -/

open Template (Returns)

theorem Animation.WellFormed.params_returns {a : Animation} (h : a.WellFormed) : Returns a.params.toEntries := by
  obtain ⟨entries, hentries⟩ := h.params
  cases hp : a.params with
  | map _ | readOnly _ => trivial
  | _ => simp [hp, Value.entries?] at hentries

theorem Animation.WellFormed.schedule_returns {a : Animation} (h : a.WellFormed) : Returns a.schedule.toMap := by
  obtain ⟨t, start, finish, hschedule, hoffset⟩ := h.schedule
  rw [hschedule, Schedule.toMap, Timing.toMap, hoffset]
  trivial

theorem Animation.WellFormed.toMap_returns {a : Animation} (h : a.WellFormed) : Returns a.toMap :=
  h.params_returns.bind fun _ _ => h.schedule_returns.bind fun _ _ => trivial

theorem Applied.toMap_returns {a : Applied} (h : a.animation.WellFormed) : Returns a.toMap :=
  h.toMap_returns.bind fun _ _ => trivial

theorem Winner.toMap_returns {w : Winner} (h : w.rule.rule.animation.WellFormed) : Returns w.toMap := by
  unfold toMap
  dsimp only
  split
  · exact h.params_returns.bind fun _ _ => h.schedule_returns.bind fun _ _ => trivial
  · exact h.schedule_returns.bind fun _ _ => trivial

theorem WordSelection.toMap_returns {s : WordSelection} (h : ∀ w ∈ s.winners, w.rule.rule.animation.WellFormed) :
    Returns s.toMap :=
  (Meets.mapM_mem fun w hw => Winner.toMap_returns (h w hw)).bind fun _ _ => trivial

/-- A result can be written as a map when its animations are well-formed. -/
theorem Application.toMap_returns {a : Application} (happlied : ∀ x ∈ a.applied, x.animation.WellFormed)
    (hselections : ∀ words ∈ a.selections, ∀ s ∈ words, ∀ w ∈ s.winners, w.rule.rule.animation.WellFormed) :
    Returns a.toMap := by
  have hmaps : Returns (a.applied.mapM Applied.toMap) :=
    (Meets.mapM_mem fun x hx => Applied.toMap_returns (happlied x hx)).mono (fun _ => id) fun _ _ => trivial
  have hdebug : Returns (a.selections.mapM fun words => words.mapM WordSelection.toMap) := by
    cases hs : a.selections with
    | none => trivial
    | some words =>
      exact (Meets.mapM_mem fun s hm => WordSelection.toMap_returns (hselections words hs s hm)).bind fun _ _ => trivial
  exact hmaps.bind fun _ _ => hdebug.bind fun _ _ => trivial

/-- What verdicts add to an empty application can be written as a map when their animations are well-formed. -/
theorem Application.Extends.toMap_returns {a a' : Application} {verdicts : List (PlacedWord × Verdict)}
    (h : a.Extends a' verdicts) (happlied : a.applied = []) (hselections : ∀ words ∈ a.selections, words = [])
    (hv : ∀ x ∈ verdicts, ∀ w ∈ x.2.winners, w.rule.rule.animation.WellFormed) : Returns a'.toMap := by
  refine Application.toMap_returns (fun x hx => ?_) fun words hwords selection hselection w hw => ?_
  · rw [h.applied, happlied, List.nil_append] at hx
    obtain ⟨x', hx', hx⟩ := List.mem_flatMap.mp hx
    obtain ⟨w, hw, rfl⟩ := List.mem_map.mp hx
    exact hv x' hx' w hw
  · rw [h.selections] at hwords
    obtain ⟨before, hbefore, rfl⟩ := Option.map_eq_some_iff.mp hwords
    rw [hselections before hbefore, List.nil_append] at hselection
    obtain ⟨x, hx, rfl⟩ := List.mem_map.mp hselection
    exact hv x hx w hw

/-! ## Deliveries -/

theorem Options.filterRules_sublist {o : Options} {rules kept : List CompiledRule} (h : o.filterRules rules = .ok kept) :
    kept.Sublist rules := by
  obtain ⟨admitted, -, h⟩ := bind_eq_ok_iff.mp h
  cases h
  exact List.filter_sublist

namespace Session

variable {settings : Settings} {helpers : Registry} {templateCacheSize variableCacheSize : Option Int} {s : Session}

/-- A template with a rule whose intensity expression has no finite value, and one that is disabled. -/
def unmeasured : Template where
  id := "unmeasured"
  rules := [{ Verdict.plainRule "endless" "true" "base" 1 with intensityExpression := .text "1e999 - 1e999" },
    { Verdict.plainRule "off" "true" "other" 1 with enabled := .bool false }]
  declarations := []
  name := .null
  version := none
  metadata := []

end Session
end CaptionAnimation
