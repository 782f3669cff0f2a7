import CaptionAnimation.Proofs.Template.References
import Mathlib.Data.List.TakeWhile

/-! # What validation accepts

A template is well-formed when its id, its variables and its rules are. Each check finds no error exactly when the part
that it looks at is well-formed, whatever was seen before, and so does the validation of a whole template. -/
namespace CaptionAnimation

open Expression

/-- Names that differ from each other and from those seen before. -/
def Fresh (seen names : List String) : Prop := names.Nodup ∧ ∀ name ∈ names, name ∉ seen

theorem fresh_cons {seen names : List String} {name : String} :
    Fresh seen (name :: names) ↔ name ∉ seen ∧ Fresh (name :: seen) names := by
  unfold Fresh
  rw [List.nodup_cons, List.forall_mem_cons]
  simp only [List.mem_cons, not_or]
  constructor
  · rintro ⟨⟨hname, hnodup⟩, hnew, hrest⟩
    exact ⟨hnew, hnodup, fun other hother => ⟨fun he => hname (he ▸ hother), hrest other hother⟩⟩
  · rintro ⟨hnew, hnodup, hrest⟩
    exact ⟨⟨fun hname => (hrest name hname).1 rfl, hnodup⟩, hnew, fun other hother => (hrest other hother).2⟩

theorem Text.trim_eq_nil_iff {text : List Char} : trim text = [] ↔ ∀ c ∈ text, isBlank c = true := by
  rw [trim, List.reverse_eq_nil_iff, List.dropWhile_eq_nil_iff]
  simp only [List.mem_reverse]
  constructor
  · intro h
    by_contra hsome
    -- what is left without the blanks at the front starts with no blank
    have hne : text.dropWhile isBlank ≠ [] := fun hnil => hsome (List.dropWhile_eq_nil_iff.mp hnil)
    cases (List.head_dropWhile_not isBlank hne).symm.trans (h _ (List.head_mem hne))
  · exact fun h c hc => h c ((List.dropWhile_sublist isBlank).subset hc)

namespace Template

/-- A text that is no blank one, reads as an expression, and refers only to what is there. -/
def Expresses (helpers : Registry) (declared : List String) (v : Value) : Prop :=
  ∃ text e, v = .text text ∧ (∃ c ∈ text.toList, Text.isBlank c = false) ∧ parse text = .ok e ∧
    Covers helpers declared e

end Template

/-- An animation that can be handed to the renderer. -/
structure Animation.WellFormed (a : Animation) : Prop where
  plugin : ∃ name, a.plugin = .text name ∧ name ≠ ""
  params : ∃ entries, a.params.entries? = some entries
  schedule : ∃ t start finish, a.schedule = .timed t ∧ t.offset = .tuple [.text start, .text finish]

/-- A rule that can be tested and applied, its id aside. -/
structure Rule.WellFormed (helpers : Registry) (declared : List String) (r : Rule) : Prop where
  priority : ∃ n, r.priority = .number n ∧ n.isFinite
  intensity : ∃ n, r.intensity = .number n ∧ n.isFinite
  group : ∃ name, r.group = .text name ∧ name ≠ ""
  enabled : ∃ b, r.enabled = .bool b
  animation : r.animation.WellFormed
  condition : Template.Expresses helpers declared r.condition
  intensityExpression : r.intensityExpression = .null ∨ Template.Expresses helpers declared r.intensityExpression

/-- A template with names for all that it declares, no name given twice, and expressions that can be evaluated. -/
structure Template.WellFormed (helpers : Registry) (t : Template) : Prop where
  id_ne : t.id ≠ ""
  variables_named : ∀ v ∈ t.declarations, v.name ≠ ""
  variables_nodup : (t.declarations.map Variable.name).Nodup
  expressions : ∀ v ∈ t.declarations, Expresses helpers (t.declarations.map Variable.name) v.expression
  rules_named : ∀ r ∈ t.rules, r.id ≠ ""
  rules_nodup : (t.rules.map Rule.id).Nodup
  rules : ∀ r ∈ t.rules, r.WellFormed helpers (t.declarations.map Variable.name)

namespace Template

/-! ## Expressions -/

/-- None of the causes is an error. -/
def Harmless (causes : List Issue.Cause) : Prop := ∀ cause ∈ causes, cause.severity ≠ .error

@[simp]
theorem harmless_nil : Harmless [] := List.forall_mem_nil _

@[simp]
theorem harmless_singleton {cause : Issue.Cause} : Harmless [cause] ↔ cause.severity ≠ .error :=
  List.forall_mem_singleton

@[simp]
theorem harmless_append {causes more : List Issue.Cause} :
    Harmless (causes ++ more) ↔ Harmless causes ∧ Harmless more :=
  List.forall_mem_append

theorem written?_iff {v : Value} {text : String} :
    v.written? = some text ↔ v = .text text ∧ ∃ c ∈ text.toList, Text.isBlank c = false := by
  have hblank (s : String) : (Text.trim s.toList).isEmpty = false ↔ ∃ c ∈ s.toList, Text.isBlank c = false := by
    rw [← Bool.not_eq_true, List.isEmpty_iff, Text.trim_eq_nil_iff]
    simp
  constructor
  · intro h
    obtain rfl := written?_eq_some h
    refine ⟨rfl, (hblank text).mp ?_⟩
    by_contra hne
    rw [Value.written?, if_pos (Bool.not_eq_false _ ▸ hne)] at h
    cases h
  · rintro ⟨rfl, h⟩
    rw [Value.written?, (hblank text).mpr h]
    rfl

variable {helpers : Registry} {declared : List String}

/-- A covered expression, node by node: names are known roots, fixed lookups find declared variables, and calls go to
helpers that take so many arguments. -/
theorem covers_iff_nodes {e : Expr} : Covers helpers declared e ↔
    (∀ pos root, .name pos root ∈ e.nodes → root ∈ Context.rootNames) ∧
      (∀ n ∈ e.nodes, ∀ key, n.lookedUp? = some key → key ∈ declared) ∧
      ∀ pos name args, .call pos name args ∈ e.nodes →
        ∃ helper, helpers.find? name = some helper ∧ helper.accepts args.length = true := by
  constructor
  · intro h
    refine ⟨fun pos root hn => h.roots root ?_, fun n hn key hk => h.lookups key ?_, fun pos name args hn => ?_⟩
    · exact List.mem_filterMap.mpr ⟨_, hn, rfl⟩
    · exact List.mem_filterMap.mpr ⟨n, hn, hk⟩
    · exact h.calls (name, args.length) (List.mem_filterMap.mpr ⟨_, hn, rfl⟩)
  · rintro ⟨hroots, hlookups, hcalls⟩
    refine ⟨fun root hroot => ?_, fun key hkey => ?_, fun call hcall => ?_⟩
    · obtain ⟨n, hn, hname⟩ := List.mem_filterMap.mp hroot
      cases n with
      | name pos root' =>
        obtain rfl := Option.some.inj hname
        exact hroots pos _ hn
      | _ => cases hname
    · obtain ⟨n, hn, hk⟩ := List.mem_filterMap.mp hkey
      exact hlookups n hn key hk
    · obtain ⟨n, hn, hc⟩ := List.mem_filterMap.mp hcall
      cases n with
      | call pos name args =>
        obtain rfl := Option.some.inj hc
        exact hcalls pos name args hn
      | _ => cases hc

theorem referenceCauses_harmless {site : Site} {e : Expr} :
    Harmless (referenceCauses helpers declared site e) ↔ Covers helpers declared e := by
  rw [← referenceCauses_eq_nil_iff site, List.eq_nil_iff_forall_not_mem]
  exact ⟨fun h cause hc => h cause hc (severity_of_mem_referenceCauses hc), fun h cause hc => absurd hc (h cause)⟩

theorem checkExpression_harmless (site : Site) {source : Value} :
    Harmless (checkExpression helpers declared site source).1 ↔ Expresses helpers declared source := by
  unfold checkExpression
  constructor
  · intro h
    split at h
    · exact absurd rfl (harmless_singleton.mp h)
    · next text hw =>
      obtain ⟨hsource, hblank⟩ := written?_iff.mp hw
      split at h
      · exact absurd rfl (harmless_singleton.mp h)
      · next e he => exact ⟨text, e, hsource, hblank, he, referenceCauses_harmless.mp h⟩
  · rintro ⟨text, e, hsource, hblank, he, hcovers⟩
    rw [written?_iff.mpr ⟨hsource, hblank⟩]
    simpa only [he] using referenceCauses_harmless.mpr hcovers

theorem conditionFindings_harmless {label : String} {condition : Value} :
    Harmless (conditionFindings helpers declared label condition).1 ↔ Expresses helpers declared condition := by
  unfold conditionFindings
  split
  · next hw =>
    refine ⟨fun h => absurd rfl (harmless_singleton.mp h), ?_⟩
    rintro ⟨text, e, hsource, hblank, -⟩
    cases hw.symm.trans (written?_iff.mpr ⟨hsource, hblank⟩)
  · exact checkExpression_harmless _

theorem intensityFindings_harmless {label : String} {intensity : Value} :
    Harmless (intensityFindings helpers declared label intensity).1 ↔
      intensity = .null ∨ Expresses helpers declared intensity := by
  unfold intensityFindings
  split
  · exact iff_of_true harmless_nil (.inl rfl)
  · next hnull => rw [checkExpression_harmless, or_iff_right hnull]

/-! ## Variables -/

/-- None of the issues is an error. -/
def Clean (issues : List Issue) : Prop := ∀ i ∈ issues, i.isError = false

theorem clean_append {issues more : List Issue} : Clean (issues ++ more) ↔ Clean issues ∧ Clean more :=
  List.forall_mem_append

theorem clean_map {causes : List Issue.Cause} {rule name : Option String} :
    Clean (causes.map fun cause => ⟨cause, rule, name⟩) ↔ Harmless causes := by
  unfold Clean Harmless
  rw [List.forall_mem_map]
  exact forall₂_congr fun cause _ => decide_eq_false_iff_not

theorem variableWarnings_harmless (declared seen : List String) (name : String) (e : Expr) :
    Harmless (variableWarnings declared seen name e) := by
  unfold variableWarnings
  refine harmless_append.mpr ⟨?_, ?_⟩
  · intro cause hc
    obtain ⟨ref, -, rfl⟩ := List.mem_map.mp hc
    exact nofun
  · split
    · exact harmless_nil
    · exact harmless_singleton.mpr nofun

theorem variableFindings_clean {seen : List String} {index : ℕ} {v : Variable} :
    Clean (variableFindings helpers declared seen index v).issues ↔ Expresses helpers declared v.expression := by
  have hdoubts : Harmless (((checkExpression helpers declared (.variable v.name) v.expression).2.map
      (variableWarnings declared seen v.name)).getD []) := by
    cases (checkExpression helpers declared (.variable v.name) v.expression).2 with
    | none => exact harmless_nil
    | some e => exact variableWarnings_harmless _ _ _ _
  rw [← checkExpression_harmless (.variable v.name)]
  exact clean_map.trans (harmless_append.trans (and_iff_left hdoubts))

theorem variablesFrom_clean (seen : List String) (index : ℕ) {declarations : List Variable} :
    Clean (variablesFrom helpers declared seen index declarations).issues ↔
      Fresh seen (declarations.map Variable.name) ∧
        ∀ v ∈ declarations, v.name ≠ "" ∧ Expresses helpers declared v.expression := by
  induction declarations generalizing seen index with
  | nil => simp [variablesFrom, Clean, Fresh]
  | cons v rest ih =>
    rw [List.map_cons, fresh_cons, List.forall_mem_cons]
    unfold variablesFrom
    split
    · next hn =>
      refine iff_of_false (fun h => ?_) fun h => h.2.1.1 (String.isEmpty_iff.mp hn)
      cases h _ List.mem_cons_self
    · next hn =>
      split
      · next hs =>
        refine iff_of_false (fun h => ?_) fun h => h.1.1 (List.contains_iff_mem.mp hs)
        cases h _ List.mem_cons_self
      · next hs =>
        have hname : v.name ≠ "" := fun he => hn (String.isEmpty_iff.mpr he)
        have hnew : v.name ∉ seen := fun hmem => hs (List.contains_iff_mem.mpr hmem)
        refine clean_append.trans ?_
        rw [variableFindings_clean, ih]
        tauto

/-! ## Rules -/

theorem numberCauses_harmless {rule label : String} {v : Value} :
    (∃ causes, numberCauses rule label v = .ok causes ∧ Harmless causes) ↔ ∃ n, v = .number n ∧ n.isFinite := by
  constructor
  · rintro ⟨causes, hcauses, h⟩
    exact numberCauses_eq_nil hcauses h
  · rintro ⟨n, rfl, hn⟩
    exact ⟨[], if_pos hn, harmless_nil⟩

/-- What has to be a text other than the empty one is checked in one way. -/
theorem nonempty_harmless {cause : Issue.Cause} (hc : cause.severity = .error) {v : Value} :
    Harmless (match v with
      | .text s => if s.isEmpty then [cause] else []
      | _ => [cause]) ↔ ∃ name, v = .text name ∧ name ≠ "" := by
  split
  · next name =>
    split
    · next hn => exact iff_of_false (fun h => harmless_singleton.mp h hc) (by simpa using hn)
    · next hn => exact iff_of_true harmless_nil ⟨name, rfl, by simpa using hn⟩
  · next hv =>
    refine iff_of_false (fun h => harmless_singleton.mp h hc) ?_
    rintro ⟨name, he, -⟩
    exact hv name he

theorem groupCauses_harmless {rule : String} {v : Value} :
    Harmless (groupCauses rule v) ↔ ∃ name, v = .text name ∧ name ≠ "" :=
  nonempty_harmless rfl

theorem switchCauses_harmless {rule : String} {v : Value} :
    Harmless (switchCauses rule v) ↔ ∃ b, v = .bool b := by
  unfold switchCauses
  split
  · exact iff_of_true harmless_nil ⟨true, rfl⟩
  · exact iff_of_true (harmless_singleton.mpr nofun) ⟨false, rfl⟩
  · next ht hf =>
    refine iff_of_false (fun h => harmless_singleton.mp h rfl) ?_
    rintro ⟨_ | _, he⟩
    · exact hf he
    · exact ht he

theorem isTextPair_iff {v : Value} : isTextPair v = true ↔ ∃ start finish, v = .tuple [.text start, .text finish] := by
  unfold isTextPair
  split
  · next start finish => exact iff_of_true rfl ⟨start, finish, rfl⟩
  · next hv => exact iff_of_false nofun fun ⟨start, finish, he⟩ => hv start finish he

theorem params_harmless (rule : String) {params : Value} :
    Harmless (if params.entries?.isSome then [] else [Issue.Cause.badParams rule]) ↔
      ∃ entries, params.entries? = some entries := by
  rw [← Option.isSome_iff_exists]
  split <;> simp_all [Issue.Cause.severity]

theorem animationCauses_harmless {rule : String} {a : Animation} :
    (∃ causes, animationCauses rule a = .ok causes ∧ Harmless causes) ↔ a.WellFormed := by
  obtain ⟨plugin, params, schedule⟩ := a
  have hplugin := nonempty_harmless (show (Issue.Cause.noPlugin rule).severity = .error from rfl) (v := plugin)
  constructor
  · rintro ⟨causes, h, hclean⟩
    unfold animationCauses at h
    cases schedule with
    | malformed v =>
      obtain rfl := Except.ok.inj h
      exact absurd rfl (harmless_singleton.mp (harmless_append.mp hclean).2)
    | timed t =>
      dsimp only at h
      split at h
      · next ht =>
        obtain rfl := Except.ok.inj h
        obtain ⟨⟨hp, hm⟩, -⟩ := by simpa only [harmless_append] using hclean
        obtain ⟨start, finish, hoffset⟩ := isTextPair_iff.mp ht
        exact ⟨hplugin.mp hp, (params_harmless rule).mp hm, t, start, finish, rfl, hoffset⟩
      · obtain ⟨shown, -, h⟩ := bind_eq_ok_iff.mp h
        obtain rfl := Except.ok.inj h
        exact absurd rfl (harmless_singleton.mp (harmless_append.mp hclean).2)
  · rintro ⟨hp, hm, t, start, finish, rfl, hoffset⟩
    refine ⟨_, ?_, harmless_append.mpr
      ⟨harmless_append.mpr ⟨hplugin.mpr hp, (params_harmless rule).mpr hm⟩, harmless_nil⟩⟩
    unfold animationCauses
    exact if_pos (isTextPair_iff.mpr ⟨start, finish, hoffset⟩)

theorem identityIssues_clean {seen : List String} {index : ℕ} {r : Rule} :
    Clean (identityIssues seen index r) ↔ r.id ≠ "" ∧ r.id ∉ seen := by
  unfold identityIssues
  split
  · next hn =>
    refine iff_of_false (fun h => ?_) fun h => h.1 (String.isEmpty_iff.mp hn)
    cases h _ List.mem_cons_self
  · next hn =>
    split
    · next hs =>
      refine iff_of_false (fun h => ?_) fun h => h.2 (List.contains_iff_mem.mp hs)
      cases h _ List.mem_cons_self
    · next hs =>
      exact iff_of_true (List.forall_mem_nil _)
        ⟨fun he => hn (String.isEmpty_iff.mpr he), fun hmem => hs (List.contains_iff_mem.mpr hmem)⟩

theorem ruleFindings_clean {template : String} {seen : List String} {index : ℕ} {r : Rule} :
    (∃ found, ruleFindings helpers declared template seen index r = .ok found ∧ Clean found.issues) ↔
      (r.id ≠ "" ∧ r.id ∉ seen) ∧ r.WellFormed helpers declared := by
  simp only [ruleFindings_eq_ok_iff]
  constructor
  · rintro ⟨_, ⟨priority, intensity, animation, hpriority, hintensity, hanimation, rfl⟩, hclean⟩
    simp only [clean_append, clean_map, harmless_append, identityIssues_clean, groupCauses_harmless,
      switchCauses_harmless, conditionFindings_harmless, intensityFindings_harmless] at hclean
    obtain ⟨⟨⟨hid, ⟨⟨hp, hi⟩, hgroup⟩, henabled⟩, ha⟩, hcondition, hexpression⟩ := hclean
    exact ⟨hid, numberCauses_harmless.mp ⟨priority, hpriority, hp⟩,
      numberCauses_harmless.mp ⟨intensity, hintensity, hi⟩, hgroup, henabled,
      animationCauses_harmless.mp ⟨animation, hanimation, ha⟩, hcondition, hexpression⟩
  · rintro ⟨hid, hr⟩
    obtain ⟨priority, hpriority, hp⟩ := numberCauses_harmless.mpr hr.priority
    obtain ⟨intensity, hintensity, hi⟩ := numberCauses_harmless.mpr hr.intensity
    obtain ⟨animation, hanimation, ha⟩ := animationCauses_harmless.mpr hr.animation
    refine ⟨_, ⟨priority, intensity, animation, hpriority, hintensity, hanimation, rfl⟩, ?_⟩
    simp only [clean_append, clean_map, harmless_append, identityIssues_clean, groupCauses_harmless,
      switchCauses_harmless, conditionFindings_harmless, intensityFindings_harmless]
    exact ⟨⟨⟨hid, ⟨⟨hp, hi⟩, hr.group⟩, hr.enabled⟩, ha⟩, hr.condition, hr.intensityExpression⟩

theorem rulesFrom_clean {template : String} {seen : List String} {index : ℕ} {rules : List Rule} :
    (∃ found, rulesFrom helpers declared template seen index rules = .ok found ∧ Clean found.issues) ↔
      Fresh seen (rules.map Rule.id) ∧ ∀ r ∈ rules, r.id ≠ "" ∧ r.WellFormed helpers declared := by
  induction rules generalizing seen index with
  | nil => simp [rulesFrom, Clean, Fresh]
  | cons r rest ih =>
    rw [List.map_cons, fresh_cons, List.forall_mem_cons]
    constructor
    · rintro ⟨found, h, hclean⟩
      obtain ⟨head, tail, hhead, htail, rfl⟩ := rulesFrom_cons_eq_ok_iff.mp h
      obtain ⟨hown, hrest⟩ := clean_append.mp hclean
      obtain ⟨⟨hid, hnew⟩, hr⟩ := ruleFindings_clean.mp ⟨head, hhead, hown⟩
      obtain ⟨hfresh, hall⟩ := ih.mp ⟨tail, ruleLabel_of_ne index hid ▸ htail, hrest⟩
      exact ⟨⟨hnew, hfresh⟩, ⟨hid, hr⟩, hall⟩
    · rintro ⟨⟨hnew, hfresh⟩, ⟨hid, hr⟩, hall⟩
      obtain ⟨head, hhead, hown⟩ := ruleFindings_clean.mpr ⟨⟨hid, hnew⟩, hr⟩
      obtain ⟨tail, htail, hrest⟩ := ih.mpr ⟨hfresh, hall⟩
      rw [← ruleLabel_of_ne index hid] at htail
      exact ⟨_, rulesFrom_cons_eq_ok_iff.mpr ⟨head, tail, hhead, htail, rfl⟩, clean_append.mpr ⟨hown, hrest⟩⟩

/-! ## Templates -/

theorem isValid_iff_clean {c : CompiledTemplate} : c.isValid = true ↔ Clean c.issues := by
  rw [CompiledTemplate.isValid, CompiledTemplate.errors, List.isEmpty_iff, List.filter_eq_nil_iff]
  exact forall₂_congr fun i _ => Bool.eq_false_iff.symm

theorem clean_unnamed {t : Template} :
    Clean (if t.id.isEmpty then [⟨.noTemplateId, none, none⟩] else []) ↔ t.id ≠ "" := by
  split <;> simp_all [Clean, Issue.isError, Issue.severity, Issue.Cause.severity]

theorem clean_unruled (t : Template) : Clean (if t.rules.isEmpty then [⟨.noRules t.id, none, none⟩] else []) := by
  split <;> simp [Clean, Issue.isError, Issue.severity, Issue.Cause.severity]

/-- A template without errors is well-formed. -/
theorem WellFormed.of_analyze {t : Template} {c : CompiledTemplate} (h : analyze helpers t = .ok c)
    (hv : c.isValid = true) : t.WellFormed helpers := by
  unfold analyze at h
  obtain ⟨found, hfound, h⟩ := bind_eq_ok_iff.mp h
  obtain rfl := Except.ok.inj h
  obtain ⟨⟨⟨hid, hcomputed⟩, hrules⟩, -⟩ := by simpa only [isValid_iff_clean, clean_append] using hv
  obtain ⟨hvariables, hdeclared⟩ := (variablesFrom_clean [] 0).mp hcomputed
  obtain ⟨hfresh, hall⟩ := rulesFrom_clean.mp ⟨found, hfound, hrules⟩
  exact ⟨clean_unnamed.mp hid, fun v hv => (hdeclared v hv).1, hvariables.1, fun v hv => (hdeclared v hv).2,
    fun r hr => (hall r hr).1, hfresh.1, fun r hr => (hall r hr).2⟩

/-- The analysis of a well-formed template returns, and finds no error. -/
theorem WellFormed.exists_analyze {t : Template} (h : t.WellFormed helpers) :
    ∃ c, analyze helpers t = .ok c ∧ c.isValid = true := by
  have hcomputed := (variablesFrom_clean [] 0).mpr
    ⟨⟨h.variables_nodup, fun _ _ => List.not_mem_nil⟩, fun v hv => ⟨h.variables_named v hv, h.expressions v hv⟩⟩
  obtain ⟨found, hfound, hrules⟩ := rulesFrom_clean.mpr
    ⟨⟨h.rules_nodup, fun _ _ => List.not_mem_nil⟩, fun r hr => ⟨h.rules_named r hr, h.rules r hr⟩⟩
  refine ⟨_, bind_eq_ok_iff.mpr ⟨found, hfound, rfl⟩, isValid_iff_clean.mpr ?_⟩
  simp only [clean_append]
  exact ⟨⟨⟨clean_unnamed.mpr h.id_ne, hcomputed⟩, hrules⟩, clean_unruled t⟩

/-- Compiling a template finds no error exactly when the template is well-formed. -/
theorem compile_valid_iff (helpers : Registry) (t : Template) :
    (∃ c, compile helpers (.finished t) = .ok c ∧ c.isValid = true) ↔ t.WellFormed helpers := by
  have hcompile : compile helpers (.finished t) = analyze helpers t := rfl
  rw [hcompile]
  constructor
  · rintro ⟨c, hc, hv⟩
    exact .of_analyze hc hv
  · exact WellFormed.exists_analyze

end Template
end CaptionAnimation
