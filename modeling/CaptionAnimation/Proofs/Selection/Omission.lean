import CaptionAnimation.Proofs.Selection.Positions
import CaptionAnimation.Proofs.Template.Data
import CaptionAnimation.Proofs.Template.WellFormed

/-! # Rules that are left out

A rule can be left out of a run by the options, by being disabled, or by being taken out of its template. A valid
template stays valid without some of its rules. The others are compiled as before, but for their positions, so every way
of leaving rules out gives the same result. -/
namespace CaptionAnimation

open Expression

/-- Whether an id is none of these. -/
def spares (ids : List String) (id : String) : Bool := !ids.contains id

namespace Template

/-- The template with the rules of these ids disabled. -/
def disabling (t : Template) (ids : List String) : Template :=
  { t with rules := t.rules.map fun r => if spares ids r.id then r else { r with enabled := .bool false } }

/-- The template without the rules of these ids. -/
def without (t : Template) (ids : List String) : Template :=
  { t with rules := t.rules.filter fun r => spares ids r.id }

/-- How many of the rules before a position stay when the rules of these ids are taken out. -/
def keptBefore (t : Template) (ids : List String) (index : ℕ) : ℕ :=
  (t.rules.take index).countP fun r => spares ids r.id

/-! ## Compiled parts -/

/-- What a rule compiles to at a position, whatever else is in the template. -/
def compiledAt (template : String) (index : ℕ) (r : Rule) : List CompiledRule :=
  compileRule template index r (expression? r.condition) (expression? r.intensityExpression)

/-- What rules compile to from a position on. -/
def compiledFrom (template : String) : (index : ℕ) → List Rule → List CompiledRule
  | _, [] => []
  | index, r :: rest => compiledAt template index r ++ compiledFrom template (index + 1) rest

theorem conditionFindings_snd (helpers : Registry) (declared : List String) (label : String) (condition : Value) :
    (conditionFindings helpers declared label condition).2 = expression? condition := by
  unfold conditionFindings
  split
  · next hw => rw [expression?, hw]; rfl
  · exact checkExpression_snd _ _ _ _

theorem intensityFindings_snd (helpers : Registry) (declared : List String) (label : String) (intensity : Value) :
    (intensityFindings helpers declared label intensity).2 = expression? intensity := by
  unfold intensityFindings
  split
  · rfl
  · exact checkExpression_snd _ _ _ _

theorem rulesFrom_eq_compiledFrom {helpers : Registry} {declared : List String} {template : String} {rules : List Rule}
    {seen : List String} {index : ℕ} {found : Findings CompiledRule}
    (h : rulesFrom helpers declared template seen index rules = .ok found) :
    found.parts = compiledFrom template index rules := by
  induction rules generalizing seen index found with
  | nil =>
    obtain rfl := Except.ok.inj h
    rfl
  | cons r rest ih =>
    obtain ⟨head, tail, hhead, htail, rfl⟩ := rulesFrom_cons_eq_ok_iff.mp h
    obtain ⟨priority, intensity, animation, -, -, -, rfl⟩ := ruleFindings_eq_ok_iff.mp hhead
    rw [compiledFrom, ← ih htail]
    simp only [Findings.followedBy, conditionFindings_snd, intensityFindings_snd, compiledAt]

/-- At another position, a rule compiles to the same rule at that position. -/
theorem compiledAt_moved (template : String) (φ : ℕ → ℕ) (index : ℕ) (r : Rule) :
    compiledAt template (φ index) r = (compiledAt template index r).map (CompiledRule.moved φ) := by
  unfold compiledAt compileRule
  split
  · split <;> rfl
  · rfl

variable {template : String}

/-- Of what a rule compiles to, all is chosen or nothing when declarations are. -/
theorem filter_compiledAt (p : Rule → Bool) (index : ℕ) (r : Rule) :
    (compiledAt template index r).filter (fun c => p c.rule) = if p r then compiledAt template index r else [] := by
  have hrule : ∀ c ∈ compiledAt template index r, c.rule = r := fun c hc => (mem_compileRule hc).1
  split
  · next hp => exact List.filter_eq_self.mpr fun c hc => (hrule c hc).symm ▸ hp
  · next hp => exact List.filter_eq_nil_iff.mpr fun c hc => (hrule c hc).symm ▸ hp

theorem le_index_of_mem_compiledFrom {rules : List Rule} {index : ℕ} {c : CompiledRule}
    (h : c ∈ compiledFrom template index rules) : index ≤ c.index := by
  induction rules generalizing index with
  | nil => cases h
  | cons r rest ih =>
    rcases List.mem_append.mp h with h | h
    · exact (mem_compileRule h).2.1.ge
    · exact Nat.le_of_succ_le (ih h)

/-- Where some rules are disabled, what is compiled and enabled belongs to the others. -/
theorem filter_compiledFrom_disabling (ids : List String) (rules : List Rule) (index : ℕ) :
    (compiledFrom template index
        (rules.map fun r => if spares ids r.id then r else { r with enabled := .bool false })).filter
          (fun c => c.rule.enabled.truthy) =
      ((compiledFrom template index rules).filter fun c => c.rule.enabled.truthy).filter fun c => spares ids c.id := by
  induction rules generalizing index with
  | nil => rfl
  | cons r rest ih =>
    have hown : (compiledAt template index (if spares ids r.id then r else { r with enabled := .bool false })).filter
          (fun c => c.rule.enabled.truthy) =
        ((compiledAt template index r).filter fun c => c.rule.enabled.truthy).filter fun c => spares ids c.id := by
      have hspared : (compiledAt template index r).filter (fun c => spares ids c.id) =
          if spares ids r.id then compiledAt template index r else [] :=
        filter_compiledAt (fun r => spares ids r.id) index r
      rw [List.filter_comm, hspared]
      cases spares ids r.id with
      | true => rfl
      | false => exact filter_compiledAt (fun r => r.enabled.truthy) index _
    rw [List.map_cons, compiledFrom, compiledFrom, List.filter_append, List.filter_append, List.filter_append, ih, hown]

/-- Where some rules are taken out, the others compile as before, to positions that count the rules that stay. -/
theorem compiledFrom_filter (template : String) (p : Rule → Bool) (rules : List Rule) (index position : ℕ) :
    compiledFrom template position (rules.filter p) =
      ((compiledFrom template index rules).filter fun c => p c.rule).map
        (CompiledRule.moved fun i => position + (rules.take (i - index)).countP p) := by
  induction rules generalizing index position with
  | nil => rfl
  | cons r rest ih =>
    have hrest (start : ℕ) (hstart : start = if p r then position + 1 else position) :
        ((compiledFrom template (index + 1) rest).filter fun c => p c.rule).map
            (CompiledRule.moved fun i => position + ((r :: rest).take (i - index)).countP p) =
          ((compiledFrom template (index + 1) rest).filter fun c => p c.rule).map
            (CompiledRule.moved fun i => start + (rest.take (i - (index + 1))).countP p) := by
      refine List.map_congr_left fun c hc => ?_
      obtain ⟨k, hk⟩ := Nat.exists_eq_add_of_le (le_index_of_mem_compiledFrom (List.mem_filter.mp hc).1)
      have hcount : position + ((r :: rest).take (c.index - index)).countP p =
          start + (rest.take (c.index - (index + 1))).countP p := by
        rw [hk, show index + 1 + k - index = k + 1 by omega, show index + 1 + k - (index + 1) = k by omega,
          List.take_succ_cons, List.countP_cons, hstart]
        split <;> omega
      simp only [CompiledRule.moved, hcount]
    rw [compiledFrom, List.filter_append, List.map_append, filter_compiledAt]
    cases hp : p r with
    | true =>
      have hfirst := compiledAt_moved template (fun i => position + ((r :: rest).take (i - index)).countP p) index r
      rw [Nat.sub_self, List.take_zero, List.countP_nil, Nat.add_zero] at hfirst
      rw [List.filter_cons_of_pos hp, compiledFrom, hrest (position + 1) (by rw [hp]; rfl), ← ih, hfirst]
      rfl
    | false =>
      rw [List.filter_cons_of_neg (by simp [hp]), hrest position (by rw [hp]; rfl), ← ih]
      rfl

/-! ## Analysis -/

theorem keptBefore_mono (t : Template) (ids : List String) : Monotone (t.keptBefore ids) :=
  fun _ _ h => (List.take_sublist_take_left h).countP_le

theorem keptBefore_succ {t : Template} {ids : List String} {index : ℕ} {r : Rule} (h : t.rules[index]? = some r)
    (hr : spares ids r.id = true) : t.keptBefore ids (index + 1) = t.keptBefore ids index + 1 := by
  simp [keptBefore, List.take_add_one, h, hr]

variable {helpers : Registry} {t : Template} {c : CompiledTemplate}

/-- Rules that stay keep their order when the others are taken out. -/
theorem keepsOrder_keptBefore (h : analyze helpers t = .ok c) (ids : List String) :
    KeepsOrder (t.keptBefore ids) (c.rules.filter fun r => spares ids r.id) := by
  intro a _ b hb
  refine ⟨fun hle => ?_, fun hle => t.keptBefore_mono ids hle⟩
  by_contra hlt
  obtain ⟨hmem, hspared⟩ := List.mem_filter.mp hb
  have hsucc := keptBefore_succ (CompiledTemplate.rules_faithful h hmem).2 hspared
  have hnext : b.index + 1 ≤ a.index := Nat.lt_of_not_le hlt
  have hmono := t.keptBefore_mono ids hnext
  omega

theorem WellFormed.disabling (h : t.WellFormed helpers) (ids : List String) : (t.disabling ids).WellFormed helpers := by
  have hids : (t.disabling ids).rules.map Rule.id = t.rules.map Rule.id := by
    refine List.map_map.trans (List.map_congr_left fun r _ => ?_)
    dsimp only [Function.comp_apply]
    split <;> rfl
  have hrule : ∀ r ∈ (t.disabling ids).rules, ∃ r' ∈ t.rules, r = r' ∨ r = { r' with enabled := .bool false } := by
    intro r hr
    obtain ⟨r', hr', rfl⟩ := List.mem_map.mp hr
    refine ⟨r', hr', ?_⟩
    split
    · exact .inl rfl
    · exact .inr rfl
  refine ⟨h.id_ne, h.variables_named, h.variables_nodup, h.expressions, ?_, hids ▸ h.rules_nodup, ?_⟩
  · intro r hr
    obtain ⟨r', hr', rfl | rfl⟩ := hrule r hr
    · exact h.rules_named r hr'
    · exact h.rules_named r' hr'
  · intro r hr
    obtain ⟨r', hr', rfl | rfl⟩ := hrule r hr
    · exact h.rules r hr'
    · exact { h.rules r' hr' with enabled := ⟨false, rfl⟩ }

theorem WellFormed.without (h : t.WellFormed helpers) (ids : List String) : (t.without ids).WellFormed helpers where
  id_ne := h.id_ne
  variables_named := h.variables_named
  variables_nodup := h.variables_nodup
  expressions := h.expressions
  rules_named := fun r hr => h.rules_named r (List.mem_filter.mp hr).1
  rules_nodup := h.rules_nodup.sublist (List.filter_sublist.map _)
  rules := fun r hr => h.rules r (List.mem_filter.mp hr).1

/-- The rules of an analysis are the enabled ones that are declared, in order of precedence. -/
theorem rules_of_analyze (h : analyze helpers t = .ok c) :
    c.rules = CompiledRule.sorted ((compiledFrom t.id 0 t.rules).filter fun r => r.rule.enabled.truthy) := by
  obtain ⟨-, -, -, found, hfound, hrules, -⟩ := analyze_eq_ok h
  rw [hrules, rulesFrom_eq_compiledFrom hfound]

/-- Enabled rules that are left out leave the others in order of precedence. -/
theorem sorted_filter_of_analyze (h : analyze helpers t = .ok c) (p : CompiledRule → Bool) :
    CompiledRule.sorted (((compiledFrom t.id 0 t.rules).filter fun r => r.rule.enabled.truthy).filter p) =
      c.rules.filter p := by
  obtain ⟨-, -, -, found, hfound, hrules, -⟩ := analyze_eq_ok h
  rw [hrules, ← rulesFrom_eq_compiledFrom hfound]
  refine CompiledRule.sorted_filter (fun r hr => ?_) ?_ p
  · exact (rulesFrom_parts hfound r (List.mem_filter.mp hr).1).1
  · exact List.pairwise_map.mpr (((rulesFrom_pairwise hfound).filter _).imp fun hab => Nat.ne_of_lt hab)

/-- Both templates have the same variables, under the same key. -/
structure SameVariables (c c' : CompiledTemplate) : Prop where
  id : c'.id = c.id
  version : c'.version = c.version
  declarations : c'.declarations = c.declarations

theorem sameVariables_of_analyze {t' : Template} {c' : CompiledTemplate} (h : analyze helpers t = .ok c)
    (h' : analyze helpers t' = .ok c') (hkey : t'.key = t.key) (hd : t'.declarations = t.declarations) :
    SameVariables c c' := by
  obtain ⟨hid, hversion, hdeclarations, -⟩ := analyze_eq_ok h
  obtain ⟨hid', hversion', hdeclarations', -⟩ := analyze_eq_ok h'
  obtain ⟨hkeyId, hkeyVersion⟩ := Prod.mk.inj hkey
  exact ⟨hid'.trans (hkeyId.trans hid.symm), hversion'.trans (hkeyVersion.trans hversion.symm),
    hdeclarations'.trans (hd ▸ hdeclarations.symm)⟩

/-- A valid template with some rules disabled is valid, and has the other rules. -/
theorem exists_analyze_disabling (h : analyze helpers t = .ok c) (hv : c.isValid = true) (ids : List String) :
    ∃ c', analyze helpers (t.disabling ids) = .ok c' ∧ c'.isValid = true ∧ SameVariables c c' ∧
      c'.rules = c.rules.filter fun r => spares ids r.id := by
  obtain ⟨c', hc', hv'⟩ := ((WellFormed.of_analyze h hv).disabling ids).exists_analyze
  refine ⟨c', hc', hv', sameVariables_of_analyze h hc' rfl rfl, ?_⟩
  rw [rules_of_analyze hc', ← sorted_filter_of_analyze h]
  exact congrArg CompiledRule.sorted (filter_compiledFrom_disabling ids t.rules 0)

/-- A valid template without some rules is valid, and has the other rules at the positions that are left. -/
theorem exists_analyze_without (h : analyze helpers t = .ok c) (hv : c.isValid = true) (ids : List String) :
    ∃ c', analyze helpers (t.without ids) = .ok c' ∧ c'.isValid = true ∧ SameVariables c c' ∧
      c'.rules = (c.rules.filter fun r => spares ids r.id).map (CompiledRule.moved (t.keptBefore ids)) := by
  obtain ⟨c', hc', hv'⟩ := ((WellFormed.of_analyze h hv).without ids).exists_analyze
  refine ⟨c', hc', hv', sameVariables_of_analyze h hc' rfl rfl, ?_⟩
  have hparts : compiledFrom t.id 0 (t.without ids).rules =
      ((compiledFrom t.id 0 t.rules).filter fun r => spares ids r.id).map (CompiledRule.moved (t.keptBefore ids)) := by
    have hfilter := compiledFrom_filter t.id (fun r => spares ids r.id) t.rules 0 0
    simp only [Nat.sub_zero, Nat.zero_add] at hfilter
    exact hfilter
  have hkept := keepsOrder_keptBefore h ids
  rw [← sorted_filter_of_analyze h] at hkept ⊢
  rw [rules_of_analyze hc', show (t.without ids).id = t.id from rfl, hparts, List.filter_map,
    ← CompiledRule.sorted_moved (hkept.subset (CompiledRule.sorted_perm _).symm.subset), List.filter_comm]
  rfl

end Template

/-! ## Options -/

namespace Options

/-- The options without a choice of rules. -/
def unfiltered (o : Options) : Options := { o with enabledRules := .null, disabledRules := .null }

/-- The options by which the rules of these ids do not take part. -/
def excluding (o : Options) (ids : List String) : Options :=
  { o with enabledRules := .null, disabledRules := .list (ids.map .text) }

/-- The options by which only the rules of these ids take part. -/
def only (o : Options) (ids : List String) : Options :=
  { o with enabledRules := .list (ids.map .text), disabledRules := .null }

theorem members_texts (ids : List String) : members (.list (ids.map .text)) = .ok (ids.map .text) := by
  have hkeys : (ids.map Value.text).findSome? Value.unkeyable = none := by
    simp [List.findSome?_eq_none_iff, Value.unkeyable]
  simp only [members, Value.elements?, hkeys]
  rfl

theorem any_same_text (ids : List String) (id : String) :
    (ids.map Value.text).any (Value.same (.text id)) = ids.contains id := by
  rw [List.any_map, List.contains_eq_any_beq]
  congr 1
  funext other
  simp [Value.same]

variable (o : Options) (ids : List String) (rules : List CompiledRule)

theorem filterRules_unfiltered : o.unfiltered.filterRules rules = .ok rules :=
  congrArg Except.ok (List.filter_eq_self.mpr fun _ _ => rfl)

theorem filterRules_excluding : (o.excluding ids).filterRules rules = .ok (rules.filter fun r => spares ids r.id) := by
  have hadmits : (o.excluding ids).admits = .ok fun r => spares ids r.id := by
    cases ids with
    | nil => rfl
    | cons id rest =>
      unfold admits
      rw [show (o.excluding (id :: rest)).disabledRules = .list ((id :: rest).map .text) from rfl, members_texts]
      show Except.ok (fun r : CompiledRule => true && !((id :: rest).map Value.text).any (Value.same (.text r.id))) = _
      simp only [any_same_text, Bool.true_and]
      rfl
  unfold filterRules
  rw [hadmits]
  rfl

theorem filterRules_only : (o.only ids).filterRules rules = .ok (rules.filter fun r => ids.contains r.id) := by
  have hadmits : (o.only ids).admits = .ok fun r => ids.contains r.id := by
    unfold admits
    rw [show (o.only ids).enabledRules = .list (ids.map .text) from rfl]
    dsimp only
    rw [members_texts]
    show Except.ok (fun r : CompiledRule => (ids.map Value.text).any (Value.same (.text r.id)) && true) = _
    simp only [any_same_text, Bool.and_true]
  unfold filterRules
  rw [hadmits]
  rfl

end Options

/-! ## Answers -/

/-- The values of variables do not depend on the rules of their template. -/
theorem VariableRun.compute_congr {c c' : CompiledTemplate} (h : Template.SameVariables c c') (helpers : Registry)
    (t : Transcript) (cache : Option VariableCache) : compute helpers c' t cache = compute helpers c t cache := by
  have hfrom (t : Transcript) (fingerprint : String) (vs : List CompiledVariable) (run : VariableRun) :
      computeFrom helpers c' t fingerprint vs run = computeFrom helpers c t fingerprint vs run := by
    induction vs generalizing run with
    | nil => rfl
    | cons v rest ih =>
      unfold computeFrom
      rw [h.id, h.version]
      split
      · exact ih _
      · rfl
  unfold compute
  simp only [h.declarations, hfrom]

namespace Session

variable {settings : Settings} {helpers : Registry} {templateCacheSize variableCacheSize : Option Int} {s : Session}

/-- A new session has nothing to find a template in. -/
theorem compiled_of_new (h : Session.new settings helpers templateCacheSize variableCacheSize = .ok s) (t : Template)
    (useCache : Bool) : (s.compiled t useCache).2 = Template.analyze helpers t := by
  unfold Session.new at h
  obtain ⟨templates, ht, h⟩ := bind_eq_ok_iff.mp h
  obtain ⟨values, -, h⟩ := bind_eq_ok_iff.mp h
  obtain rfl := Except.ok.inj h
  have hempty : templates.Holds fun _ _ => False := Recent.holds_of_ofSize ht
  unfold compiled
  split
  · rfl
  · split
    · next found _ hfind => exact (hempty.find_some (congrArg Prod.fst hfind)).elim
    · split
      · next c ha => exact ha.symm
      · next f ha => exact ha.symm

/-- Without a limit of time, applying a compiled template takes the words one after the other. -/
theorem applyCompiled_eq_foldl (s : Session) {c : CompiledTemplate} {o : Options} {rules : List CompiledRule}
    (h : o.filterRules c.rules = .ok rules) (hd : o.deadline = .null) (t : Transcript) {run : VariableRun}
    {outcome : Except Fault Unit}
    (hrun : VariableRun.compute s.helpers c t (if o.caching.truthy then some s.values else none) = (run, outcome)) :
    (s.applyCompiled c t o).2 = outcome.map fun _ =>
      t.placedWords.foldl (Course.advance ⟨s.helpers, t, run.values, rules, o⟩)
        { warnings := run.warnings, selections := if o.debugInfo.truthy then some [] else none } := by
  have hoverdue : o.overdue = .ok false := by rw [Options.overdue, hd]
  rw [s.applyCompiled_snd h t hrun]
  cases outcome with
  | error f => rfl
  | ok u => exact Course.runFrom_eq_foldl ⟨s.helpers, t, run.values, rules, o⟩ hoverdue _ _ _

/-- Applying a compiled template with its rules moved, and otherwise in the same way, moves the rules of the result. -/
theorem applyCompiled_moved {s s' : Session} (hhelpers : s'.helpers = s.helpers) (hvalues : s'.values = s.values)
    {c c' : CompiledTemplate} (hc : Template.SameVariables c c') {o o' : Options} (ho : o'.unfiltered = o.unfiltered)
    (hd : o.deadline = .null) {φ : ℕ → ℕ} {rules : List CompiledRule} (hrules : o.filterRules c.rules = .ok rules)
    (hrules' : o'.filterRules c'.rules = .ok (rules.map (CompiledRule.moved φ))) (hφ : KeepsOrder φ rules)
    (t : Transcript) :
    (s'.applyCompiled c' t o').2 = (s.applyCompiled c t o).2.map (Application.moved φ) := by
  -- the options differ in the rules they admit, which nothing behind the filter looks at
  have hkept {α : Type} (field : Options → α) : field o'.unfiltered = field o.unfiltered := congrArg field ho
  have hd' : o'.deadline = .null := (hkept Options.deadline).trans hd
  have hcaching : o'.caching = o.caching := hkept Options.caching
  have hdebug : o'.debugInfo = o.debugInfo := hkept Options.debugInfo
  have hskips : o'.skips = o.skips := hkept Options.skips
  rcases hrun : VariableRun.compute s.helpers c t (if o.caching.truthy then some s.values else none) with ⟨run, outcome⟩
  have hrun' : VariableRun.compute s'.helpers c' t (if o'.caching.truthy then some s'.values else none) =
      (run, outcome) := by
    rw [VariableRun.compute_congr hc, hhelpers, hvalues, hcaching, hrun]
  rw [s.applyCompiled_eq_foldl hrules hd t hrun, s'.applyCompiled_eq_foldl hrules' hd' t hrun', hhelpers, hdebug]
  cases outcome with
  | error f => rfl
  | ok u =>
    have hadvance : Course.advance ⟨s.helpers, t, run.values, rules.map (CompiledRule.moved φ), o'⟩ =
        Course.advance ⟨s.helpers, t, run.values, rules.map (CompiledRule.moved φ), o⟩ := by
      funext a p
      unfold Course.advance
      rw [hskips]
      rfl
    have hstart : Application.moved φ
        { warnings := run.warnings, selections := if o.debugInfo.truthy then some [] else none } =
          { warnings := run.warnings, selections := if o.debugInfo.truthy then some [] else none } := by
      cases o.debugInfo.truthy <;> rfl
    have hmoved := Course.foldl_advance_moved ⟨s.helpers, t, run.values, rules, o⟩ hφ t.placedWords
      { warnings := run.warnings, selections := if o.debugInfo.truthy then some [] else none }
    rw [hstart] at hmoved
    rw [hadvance]
    exact congrArg Except.ok hmoved

/-- The session answers in this way to a template and options, in whatever form they are given. -/
def Answers (s : Session) (t : Template) (audio : Value) (o : Options) (a : Application) : Prop :=
  ∀ (template : TemplateSource) (options : OptionsSource), template.read = .ok t →
    options.read s.settings = .ok (.ok o) → (s.apply template audio options).2 = a

/-- The answer of a new session to a valid template. -/
theorem answers_of_new (h : Session.new settings helpers templateCacheSize variableCacheSize = .ok s) {t : Template}
    {c : CompiledTemplate} (hc : Template.analyze helpers t = .ok c) (hv : c.isValid = true) (audio : Value)
    (o : Options) : s.Answers t audio o <|
      match Transcript.expect audio with
      | .error f => .refused ["Template application failed: " ++ f.message] []
      | .ok given =>
        match ((s.compiled t o.caching.truthy).1.applyCompiled c given.placed o).2 with
        | .ok a => a
        | .error f => .refused ["Template application failed: " ++ f.message] [] := by
  intro template options ht ho
  exact s.apply_of_compiled (Template.stranger?_of_read ht) ht ho ((compiled_of_new h t o.caching.truthy).trans hc) hv
    audio

/-- When the rules that take part are moved without changing their order, a new session answers as before, but for the
positions in the result. -/
theorem Answers.moved {t t' : Template} {audio : Value} {o o' : Options} {a : Application}
    (ha : s.Answers t audio o a) (h : Session.new settings helpers templateCacheSize variableCacheSize = .ok s)
    {c c' : CompiledTemplate} (hc : Template.analyze helpers t = .ok c) (hv : c.isValid = true)
    (hc' : Template.analyze helpers t' = .ok c') (hv' : c'.isValid = true) (hsame : Template.SameVariables c c')
    {φ : ℕ → ℕ} {rules : List CompiledRule} (hrules : o.filterRules c.rules = .ok rules)
    (hrules' : o'.filterRules c'.rules = .ok (rules.map (CompiledRule.moved φ))) (hφ : KeepsOrder φ rules)
    (ho : o'.unfiltered = o.unfiltered) (hd : o.deadline = .null) : s.Answers t' audio o' (a.moved φ) := by
  obtain rfl := ha (.finished t) (.finished o) rfl rfl
  intro template options ht hoptions
  rw [answers_of_new h hc hv audio o (.finished t) (.finished o) rfl rfl,
    answers_of_new h hc' hv' audio o' template options ht hoptions]
  cases Transcript.expect audio with
  | error f => rfl
  | ok given =>
    obtain ⟨hhelpers, hvalues⟩ := s.compiled_fst t o.caching.truthy
    obtain ⟨hhelpers', hvalues'⟩ := s.compiled_fst t' o'.caching.truthy
    dsimp only
    rw [applyCompiled_moved (hhelpers'.trans hhelpers.symm) (hvalues'.trans hvalues.symm) hsame ho hd hrules hrules' hφ]
    cases ((s.compiled t o.caching.truthy).1.applyCompiled c given.placed o).2 <;> rfl

/-- When the same rules take part, a new session answers in the same way. -/
theorem Answers.same {t t' : Template} {audio : Value} {o o' : Options} {a : Application}
    (ha : s.Answers t audio o a) (h : Session.new settings helpers templateCacheSize variableCacheSize = .ok s)
    {c c' : CompiledTemplate} (hc : Template.analyze helpers t = .ok c) (hv : c.isValid = true)
    (hc' : Template.analyze helpers t' = .ok c') (hv' : c'.isValid = true) (hsame : Template.SameVariables c c')
    {rules : List CompiledRule} (hrules : o.filterRules c.rules = .ok rules)
    (hrules' : o'.filterRules c'.rules = .ok rules) (ho : o'.unfiltered = o.unfiltered) (hd : o.deadline = .null) :
    s.Answers t' audio o' a := by
  have hmoved := ha.moved h hc hv hc' hv' hsame hrules ((map_moved_id rules).symm ▸ hrules') (keepsOrder_id rules) ho hd
  rwa [Application.moved_id] at hmoved

/-- Rules of a valid template can be left out of a call by excluding their ids, by admitting only the other ids, by
disabling them, and by taking them out of the template. A new session answers to all of these with one result, in which
taking them out only moves the other rules; the map of the result shows nothing of that. -/
theorem exists_answers_omitting (h : Session.new settings helpers templateCacheSize variableCacheSize = .ok s)
    {t : Template} {c : CompiledTemplate} (hc : Template.compile helpers (.finished t) = .ok c) (hv : c.isValid = true)
    (ids : List String) (audio : Value) {o : Options} (hd : o.deadline = .null) :
    ∃ result, s.Answers t audio (o.excluding ids) result ∧
      s.Answers t audio (o.only ((t.rules.map Rule.id).filter (spares ids))) result ∧
      s.Answers (t.disabling ids) audio o.unfiltered result ∧
      s.Answers (t.without ids) audio o.unfiltered (result.moved (t.keptBefore ids)) ∧
      (result.moved (t.keptBefore ids)).toMap = result.toMap := by
  have hexcluding := o.filterRules_excluding ids c.rules
  have honly : (o.only ((t.rules.map Rule.id).filter (spares ids))).filterRules c.rules =
      .ok (c.rules.filter fun r => spares ids r.id) := by
    rw [Options.filterRules_only]
    refine congrArg Except.ok (List.filter_congr fun r hr => ?_)
    have hdeclared : r.id ∈ t.rules.map Rule.id :=
      List.mem_map_of_mem (List.mem_of_getElem? (CompiledTemplate.rules_faithful hc hr).2)
    rw [Bool.eq_iff_iff, List.contains_iff_mem, List.mem_filter, and_iff_right hdeclared]
  obtain ⟨disabled, hdisabled, hvdisabled, hsdisabled, hrdisabled⟩ := Template.exists_analyze_disabling hc hv ids
  obtain ⟨without, hwithout, hvwithout, hswithout, hrwithout⟩ := Template.exists_analyze_without hc hv ids
  have hresult := answers_of_new h hc hv audio (o.excluding ids)
  refine ⟨_, hresult, ?_, ?_, ?_, Application.toMap_moved _⟩
  · exact hresult.same h hc hv hc hv ⟨rfl, rfl, rfl⟩ hexcluding honly rfl hd
  · exact hresult.same h hc hv hdisabled hvdisabled hsdisabled hexcluding
      ((o.filterRules_unfiltered _).trans (congrArg Except.ok hrdisabled)) rfl hd
  · exact hresult.moved h hc hv hwithout hvwithout hswithout hexcluding
      ((o.filterRules_unfiltered _).trans (congrArg Except.ok hrwithout)) (Template.keepsOrder_keptBefore hc ids) rfl hd

/-- A template with a rule that takes precedence over another one. -/
def stacked : Template where
  id := "stacked"
  rules := [Verdict.plainRule "loud" "true" "base" 2, Verdict.plainRule "plain" "true" "base" 1]
  declarations := []
  name := .null
  version := none
  metadata := []

/-- Without the rule that takes precedence, the other one applies at every word that is sure. -/
theorem stacked_answers :
    ∃ c result, Template.compile .standard (.finished stacked) = .ok c ∧ c.isValid = true ∧
      reporting.deadline = .null ∧
      started.Answers stacked (.transcript gapped) (reporting.excluding ["loud"]) result ∧
      started.Answers stacked (.transcript gapped) (reporting.only ["plain"]) result ∧
      started.Answers (stacked.disabling ["loud"]) (.transcript gapped) reporting.unfiltered result ∧
      started.Answers (stacked.without ["loud"]) (.transcript gapped) reporting.unfiltered
        (result.moved (stacked.keptBefore ["loud"])) ∧
      result.applied.map (fun a => (a.rule.id, a.wordId)) = [("plain", "1-1"), ("plain", "3-0")] := by
  obtain ⟨c, hc, hv⟩ : ∃ c, Template.compile .standard (.finished stacked) = .ok c ∧ c.isValid = true :=
    exists_ok_of_any (by decide +kernel)
  obtain ⟨result, hexcluding, honly, hdisabling, hwithout, -⟩ :=
    exists_answers_omitting new_started hc hv ["loud"] (.transcript gapped) (o := reporting) rfl
  have hmoved : (result.moved (stacked.keptBefore ["loud"])).applied.map (fun a => (a.rule.id, a.wordId)) =
      [("plain", "1-1"), ("plain", "3-0")] := by
    rw [← hwithout (.finished (stacked.without ["loud"])) (.finished reporting.unfiltered) rfl rfl]
    decide +kernel
  have happlied : result.applied.map (fun a => (a.rule.id, a.wordId)) = [("plain", "1-1"), ("plain", "3-0")] := by
    rw [← hmoved, Application.moved, List.map_map]
    rfl
  exact ⟨c, result, hc, hv, rfl, hexcluding, honly, hdisabling, hwithout, happlied⟩

end Session
end CaptionAnimation
