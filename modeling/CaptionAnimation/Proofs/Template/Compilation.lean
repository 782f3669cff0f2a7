import CaptionAnimation.Template.Validation
import CaptionAnimation.Proofs.Except
import Mathlib.Data.List.Basic

/-! # What compiling gives

Each compiled rule goes back to the declaration at its position: its condition is the declared text as read, its
priority the declared number, its specificity the number of clauses. In a valid template every declared rule has a
conflict group that is a text, and a finite priority and intensity. -/
namespace CaptionAnimation

open Expression

namespace CompiledRule

/-- A compiled rule says about its declaration what the declaration says. -/
structure Faithful (r : CompiledRule) : Prop where
  priority : r.rule.priority = .number r.priority
  finite : r.priority.isFinite
  condition : ∃ source e, r.rule.condition = .text source ∧ parse source = .ok e ∧ r.condition = some e
    ∧ r.specificity = e.clauseCount

end CompiledRule

namespace Template

theorem written?_eq_some {v : Value} {source : String} (h : v.written? = some source) : v = .text source := by
  unfold Value.written? at h
  split at h
  · split at h
    · simp at h
    · simpa using h
  · simp at h

theorem number?_eq_some {v : Value} {n : Number} (h : v.number? = some n) : v = .number n := by
  unfold Value.number? at h
  split at h
  · simpa using h
  · simp at h

theorem checkExpression_eq_some {helpers : Registry} {declared : List String} {site : Site} {source : Value}
    {e : Expr} (h : (checkExpression helpers declared site source).2 = some e) :
    ∃ text, source = .text text ∧ parse text = .ok e := by
  unfold checkExpression at h
  split at h
  · simp at h
  · next text ht =>
    split at h
    · simp at h
    · next e' he =>
      obtain rfl : e' = e := by simpa using h
      exact ⟨text, written?_eq_some ht, he⟩

theorem conditionFindings_eq_some {helpers : Registry} {declared : List String} {label : String} {condition : Value}
    {e : Expr} (h : (conditionFindings helpers declared label condition).2 = some e) :
    ∃ text, condition = .text text ∧ parse text = .ok e := by
  unfold conditionFindings at h
  split at h
  · simp at h
  · exact checkExpression_eq_some h

theorem mem_compileRule {template : String} {index : Nat} {declared : Rule} {condition intensity : Option Expr}
    {r : CompiledRule} (h : r ∈ compileRule template index declared condition intensity) :
    r.rule = declared ∧ r.index = index ∧ declared.priority = .number r.priority ∧ r.priority.isFinite ∧
      ∃ e, condition = some e ∧ r.condition = some e ∧ r.specificity = e.clauseCount := by
  unfold compileRule at h
  split at h
  · next e n hn =>
    split at h
    · next hf =>
      obtain rfl : r = _ := by simpa using h
      exact ⟨rfl, rfl, number?_eq_some hn, hf, e, rfl, rfl, rfl⟩
    · simp at h
  · simp at h

theorem ruleLabel_of_ne (index : Nat) {r : Rule} (h : r.id ≠ "") : ruleLabel index r = r.id :=
  if_neg fun he => h (String.isEmpty_iff.mp he)

/-- The findings on a rule come from the checks of its parts, where each of them returns. -/
theorem ruleFindings_eq_ok_iff {helpers : Registry} {declared seen : List String} {template : String} {index : Nat}
    {declaration : Rule} {found : Findings CompiledRule} :
    ruleFindings helpers declared template seen index declaration = .ok found ↔
      ∃ priority intensity animation,
        numberCauses (ruleLabel index declaration) "priority" declaration.priority = .ok priority ∧
        numberCauses (ruleLabel index declaration) "intensity" declaration.intensity = .ok intensity ∧
        animationCauses (ruleLabel index declaration) declaration.animation = .ok animation ∧
        found =
          { issues := identityIssues seen index declaration
              ++ (priority ++ intensity ++ groupCauses (ruleLabel index declaration) declaration.group
                ++ switchCauses (ruleLabel index declaration) declaration.enabled).map
                  (fun cause => { cause, ruleId := some (ruleLabel index declaration) })
              ++ animation.map (fun cause => { cause, ruleId := some declaration.id })
              ++ ((conditionFindings helpers declared (ruleLabel index declaration) declaration.condition).1
                ++ (intensityFindings helpers declared (ruleLabel index declaration) declaration.intensityExpression).1).map
                  (fun cause => { cause, ruleId := some (ruleLabel index declaration) })
            parts := compileRule template index declaration
              (conditionFindings helpers declared (ruleLabel index declaration) declaration.condition).2
              (intensityFindings helpers declared (ruleLabel index declaration) declaration.intensityExpression).2
            nodes := nodesOf (conditionFindings helpers declared (ruleLabel index declaration) declaration.condition).2
              + nodesOf
                (intensityFindings helpers declared (ruleLabel index declaration) declaration.intensityExpression).2 } := by
  constructor
  · intro h
    unfold ruleFindings at h
    obtain ⟨priority, hpriority, h⟩ := bind_eq_ok_iff.mp h
    obtain ⟨intensity, hintensity, h⟩ := bind_eq_ok_iff.mp h
    obtain ⟨animation, hanimation, h⟩ := bind_eq_ok_iff.mp h
    exact ⟨priority, intensity, animation, hpriority, hintensity, hanimation, (Except.ok.inj h).symm⟩
  · rintro ⟨priority, intensity, animation, hpriority, hintensity, hanimation, rfl⟩
    rw [ruleFindings, hpriority, hintensity, hanimation]
    rfl

/-- What the findings on one rule hold. -/
theorem ruleFindings_parts {helpers : Registry} {declared seen : List String} {template : String} {index : Nat}
    {declaration : Rule} {found : Findings CompiledRule}
    (h : ruleFindings helpers declared template seen index declaration = .ok found) {r : CompiledRule}
    (hr : r ∈ found.parts) : r.rule = declaration ∧ r.index = index ∧ r.Faithful := by
  obtain ⟨priority, intensity, animation, -, -, -, rfl⟩ := ruleFindings_eq_ok_iff.mp h
  obtain ⟨hrule, hindex, hp, hf, e, hc, hre, hs⟩ := mem_compileRule hr
  obtain ⟨text, ht, he⟩ := conditionFindings_eq_some hc
  exact ⟨hrule, hindex, by rw [hrule, hp], hf, text, e, by rw [hrule, ht], he, hre, hs⟩

theorem compileRule_length (template : String) (index : Nat) (declared : Rule) (condition intensity : Option Expr) :
    (compileRule template index declared condition intensity).length ≤ 1 := by
  unfold compileRule
  split
  · split <;> simp
  · simp

theorem ruleFindings_length {helpers : Registry} {declared seen : List String} {template : String} {index : Nat}
    {declaration : Rule} {found : Findings CompiledRule}
    (h : ruleFindings helpers declared template seen index declaration = .ok found) : found.parts.length ≤ 1 := by
  obtain ⟨priority, intensity, animation, -, -, -, rfl⟩ := ruleFindings_eq_ok_iff.mp h
  exact compileRule_length _ _ _ _ _

/-- The findings on rules are the findings on the first, and then those on the others, when its label is taken. -/
theorem rulesFrom_cons_eq_ok_iff {helpers : Registry} {declared : List String} {template : String} {seen : List String}
    {index : Nat} {declaration : Rule} {rest : List Rule} {found : Findings CompiledRule} :
    rulesFrom helpers declared template seen index (declaration :: rest) = .ok found ↔
      ∃ head tail, ruleFindings helpers declared template seen index declaration = .ok head ∧
        rulesFrom helpers declared template (ruleLabel index declaration :: seen) (index + 1) rest = .ok tail ∧
        head.followedBy tail = found := by
  simp only [rulesFrom, bind_eq_ok_iff, pure, Except.pure, Except.ok.injEq, exists_and_left]

/-- Each compiled rule stands for the declaration at its position. -/
theorem rulesFrom_parts {helpers : Registry} {declared : List String} {template : String} {rules : List Rule}
    {seen : List String} {index : Nat} {found : Findings CompiledRule}
    (h : rulesFrom helpers declared template seen index rules = .ok found) :
    ∀ r ∈ found.parts, r.Faithful ∧ index ≤ r.index ∧ rules[r.index - index]? = some r.rule := by
  induction rules generalizing seen index found with
  | nil =>
    obtain rfl := Except.ok.inj h
    simp
  | cons declaration rest ih =>
    obtain ⟨head, tail, hhead, htail, rfl⟩ := rulesFrom_cons_eq_ok_iff.mp h
    intro r hr
    rcases List.mem_append.mp hr with hr | hr
    · obtain ⟨hrule, hindex, hfaithful⟩ := ruleFindings_parts hhead hr
      exact ⟨hfaithful, Nat.le_of_eq hindex.symm, by simp [hindex, hrule]⟩
    · obtain ⟨hfaithful, hle, hget⟩ := ih htail r hr
      refine ⟨hfaithful, by omega, ?_⟩
      rw [show r.index - index = (r.index - (index + 1)) + 1 by omega, List.getElem?_cons_succ, hget]

/-- Compiled rules stand in the order of their declarations. -/
theorem rulesFrom_pairwise {helpers : Registry} {declared : List String} {template : String} {rules : List Rule}
    {seen : List String} {index : Nat} {found : Findings CompiledRule}
    (h : rulesFrom helpers declared template seen index rules = .ok found) :
    found.parts.Pairwise fun a b => a.index < b.index := by
  induction rules generalizing seen index found with
  | nil =>
    obtain rfl := Except.ok.inj h
    exact List.Pairwise.nil
  | cons declaration rest ih =>
    obtain ⟨head, tail, hhead, htail, rfl⟩ := rulesFrom_cons_eq_ok_iff.mp h
    refine List.pairwise_append.mpr ⟨?_, ih htail, ?_⟩
    · match hp : head.parts, ruleFindings_length hhead with
      | [], _ => exact List.Pairwise.nil
      | [r], _ => exact List.pairwise_singleton _ _
    · intro a ha b hb
      have hai := (ruleFindings_parts hhead ha).2.1
      have hbi := (rulesFrom_parts htail b hb).2.1
      omega

/-- The findings on a rule are among the findings on the rules. -/
theorem rulesFrom_issues {helpers : Registry} {declared : List String} {template : String} {rules : List Rule}
    {seen : List String} {index : Nat} {found : Findings CompiledRule}
    (h : rulesFrom helpers declared template seen index rules = .ok found) {declaration : Rule}
    (hd : declaration ∈ rules) :
    ∃ seen index own, ruleFindings helpers declared template seen index declaration = .ok own ∧
      own.issues ⊆ found.issues := by
  induction rules generalizing seen index found with
  | nil => simp at hd
  | cons first rest ih =>
    obtain ⟨head, tail, hhead, htail, rfl⟩ := rulesFrom_cons_eq_ok_iff.mp h
    rcases List.mem_cons.mp hd with rfl | hd
    · exact ⟨seen, index, head, hhead, List.subset_append_left _ _⟩
    · obtain ⟨seen, index, own, hown, hsub⟩ := ih htail hd
      exact ⟨seen, index, own, hown, List.Subset.trans hsub (List.subset_append_right _ _)⟩

/-- The expression that a value is read as, if it can be read. -/
def expression? (v : Value) : Option Expr := v.written?.bind fun text => (parse text).toOption

theorem checkExpression_snd (helpers : Registry) (declared : List String) (site : Site) (source : Value) :
    (checkExpression helpers declared site source).2 = expression? source := by
  unfold checkExpression expression?
  cases source.written? with
  | none => rfl
  | some text =>
    dsimp only [Option.bind_some]
    cases parse text <;> rfl

/-- A declared variable with its expression as read. -/
def variableAt (v : Variable) (index : Nat) : CompiledVariable :=
  ⟨v, expression? v.expression, index⟩

/-- Where nothing is wrong with the variables, each declaration is compiled by itself. -/
theorem variablesFrom_parts {helpers : Registry} {declared seen : List String} {index : Nat}
    {declarations : List Variable}
    (h : ∀ i ∈ (variablesFrom helpers declared seen index declarations).issues, ¬ i.isError) :
    (variablesFrom helpers declared seen index declarations).parts =
      (declarations.zipIdx index).map fun d => variableAt d.1 d.2 := by
  induction declarations generalizing seen index with
  | nil => rfl
  | cons v rest ih =>
    unfold variablesFrom at h ⊢
    split at h
    · exact absurd rfl (h _ List.mem_cons_self)
    · split at h
      · exact absurd rfl (h _ List.mem_cons_self)
      · next hn hs =>
        rw [if_neg hn, if_neg hs]
        have hrest := ih fun i hi => h i (List.mem_append_right _ hi)
        simp only [Findings.followedBy, variableFindings, checkExpression_snd, List.singleton_append, hrest,
          List.zipIdx_cons, List.map_cons, variableAt]

/-- No two compiled variables have one name, and none has a name from before them. -/
theorem variablesFrom_names (helpers : Registry) (declared seen : List String) (index : Nat)
    (declarations : List Variable) :
    ((variablesFrom helpers declared seen index declarations).parts.map fun v => v.declaration.name).Nodup ∧
      ∀ v ∈ (variablesFrom helpers declared seen index declarations).parts, v.declaration.name ∉ seen := by
  induction declarations generalizing seen index with
  | nil => simp [variablesFrom]
  | cons v rest ih =>
    unfold variablesFrom
    split
    · simpa [Findings.followedBy] using ih seen (index + 1)
    · split
      · simpa [Findings.followedBy] using ih seen (index + 1)
      · next hs =>
        obtain ⟨hn, hseen⟩ := ih (v.name :: seen) (index + 1)
        have hv : v.name ∉ seen := by simpa using hs
        simp only [Findings.followedBy, variableFindings, List.singleton_append, List.map_cons, List.nodup_cons,
          List.mem_map, List.forall_mem_cons]
        refine ⟨⟨?_, hn⟩, hv, fun w hw hm => hseen w hw (List.mem_cons_of_mem _ hm)⟩
        rintro ⟨w, hw, he⟩
        exact hseen w hw (he ▸ List.mem_cons_self)

theorem groupCauses_eq_nil {rule : String} {v : Value} (h : ∀ cause ∈ groupCauses rule v, cause.severity ≠ .error) :
    ∃ g, v = .text g := by
  cases v with
  | text g => exact ⟨g, rfl⟩
  | _ => exact absurd rfl (h (.badGroup rule) (by simp [groupCauses]))

theorem numberCauses_eq_nil {rule label : String} {v : Value} {causes : List Issue.Cause}
    (hc : numberCauses rule label v = .ok causes) (h : ∀ cause ∈ causes, cause.severity ≠ .error) :
    ∃ n, v = .number n ∧ n.isFinite := by
  unfold numberCauses at hc
  split at hc
  · obtain ⟨shown, -, hc⟩ := bind_eq_ok_iff.mp hc
    obtain rfl : _ = causes := by simpa [pure, Except.pure] using hc
    exact absurd rfl (h _ (List.mem_singleton.mpr rfl))
  · next n hn =>
    split at hc
    · next hf => exact ⟨n, number?_eq_some hn, hf⟩
    · obtain ⟨shown, -, hc⟩ := bind_eq_ok_iff.mp hc
      obtain rfl : _ = causes := by simpa [pure, Except.pure] using hc
      exact absurd rfl (h _ (List.mem_singleton.mpr rfl))

/-- A rule without errors has a text for its group and a finite intensity. -/
theorem ruleFindings_valid {helpers : Registry} {declared seen : List String} {template : String} {index : Nat}
    {declaration : Rule} {found : Findings CompiledRule}
    (h : ruleFindings helpers declared template seen index declaration = .ok found)
    (hv : ∀ i ∈ found.issues, ¬ i.isError) :
    (∃ g, declaration.group = .text g) ∧ ∃ n, declaration.intensity = .number n ∧ n.isFinite := by
  obtain ⟨priority, intensity, animation, -, hi, -, rfl⟩ := ruleFindings_eq_ok_iff.mp h
  have clean : ∀ cause ∈ intensity ++ groupCauses (ruleLabel index declaration) declaration.group,
      cause.severity ≠ .error := by
    intro cause hc he
    refine hv ⟨cause, some (ruleLabel index declaration), none⟩ ?_ (decide_eq_true he)
    simp only [List.mem_append, List.mem_map]
    rcases List.mem_append.mp hc with hm | hm
    · exact .inl (.inl (.inr ⟨cause, .inl (.inl (.inr hm)), rfl⟩))
    · exact .inl (.inl (.inr ⟨cause, .inl (.inr hm), rfl⟩))
  exact ⟨groupCauses_eq_nil fun cause hc => clean cause (List.mem_append_right _ hc),
    numberCauses_eq_nil hi fun cause hc => clean cause (List.mem_append_left _ hc)⟩

/-- What analysing a template gives. -/
theorem analyze_eq_ok {helpers : Registry} {t : Template} {c : CompiledTemplate} (h : analyze helpers t = .ok c) :
    c.id = t.id ∧ c.version = t.version ∧
      c.declarations = (variablesFrom helpers (t.declarations.map Variable.name) [] 0 t.declarations).parts ∧
      ∃ found, rulesFrom helpers (t.declarations.map Variable.name) t.id [] 0 t.rules = .ok found ∧
        c.rules = CompiledRule.sorted (found.parts.filter fun r => r.rule.enabled.truthy) ∧
        found.issues ⊆ c.issues := by
  unfold analyze at h
  obtain ⟨found, hfound, h⟩ := bind_eq_ok_iff.mp h
  obtain rfl : _ = c := by simpa [pure, Except.pure] using h
  refine ⟨rfl, rfl, rfl, found, hfound, rfl, ?_⟩
  intro i hi
  simp [hi]

end Template

namespace CompiledTemplate

variable {helpers : Registry} {t : Template} {c : CompiledTemplate}

theorem rules_faithful (h : Template.analyze helpers t = .ok c) {r : CompiledRule} (hr : r ∈ c.rules) :
    r.Faithful ∧ t.rules[r.index]? = some r.rule := by
  obtain ⟨-, -, -, found, hfound, hrules, -⟩ := Template.analyze_eq_ok h
  rw [hrules, CompiledRule.sorted, List.mem_mergeSort, List.mem_filter] at hr
  obtain ⟨hfaithful, -, hget⟩ := Template.rulesFrom_parts hfound r hr.1
  exact ⟨hfaithful, by simpa using hget⟩

/-- No two variables of a compiled template have one name. -/
theorem names_nodup (h : Template.analyze helpers t = .ok c) :
    (c.declarations.map fun v => v.declaration.name).Nodup := by
  obtain ⟨-, -, hd, -⟩ := Template.analyze_eq_ok h
  rw [hd]
  exact (Template.variablesFrom_names _ _ _ _ _).1

/-- No two compiled rules of a template stand for one position. -/
theorem rules_index_nodup (h : Template.analyze helpers t = .ok c) : (c.rules.map CompiledRule.index).Nodup := by
  obtain ⟨-, -, -, found, hfound, hrules, -⟩ := Template.analyze_eq_ok h
  rw [hrules, CompiledRule.sorted, ((List.mergeSort_perm _ _).map _).nodup_iff]
  have hp := Template.rulesFrom_pairwise hfound
  exact List.pairwise_map.mpr ((hp.filter _).imp fun hab => Nat.ne_of_lt hab)

/-- The rules of a valid template have texts for their groups and finite intensities. -/
theorem rules_valid (h : Template.analyze helpers t = .ok c) (hv : c.isValid) {r : CompiledRule} (hr : r ∈ c.rules) :
    (∃ g, r.rule.group = .text g) ∧ ∃ n, r.rule.intensity = .number n ∧ n.isFinite := by
  obtain ⟨-, -, -, found, hfound, -, hissues⟩ := Template.analyze_eq_ok h
  have hmem := List.mem_of_getElem? (rules_faithful h hr).2
  obtain ⟨seen, index, own, hown, hsub⟩ := Template.rulesFrom_issues hfound hmem
  refine Template.ruleFindings_valid hown fun i hi he => ?_
  have herr : i ∈ c.errors := List.mem_filter.mpr ⟨hissues (hsub hi), he⟩
  rw [List.isEmpty_iff.mp hv] at herr
  simp at herr

end CompiledTemplate
end CaptionAnimation
