import CaptionAnimation.Proofs.Selection.Delivery
import CaptionAnimation.Proofs.Selection.Statistics

/-! # The books of a session

Rule statistics account for every evaluation. As long as no word fails, the statistics of a rule grow with every call by
as many evaluations as the call has processed words, if the rule took part in it, and those of a template by as many as
the call reports. -/
namespace CaptionAnimation

open RuleStats (additive_evaluations)

/-- What the statistics of a rule are kept under. -/
def CompiledRule.key (r : CompiledRule) : RuleKey := ⟨r.template, r.id⟩

/-! ## Words -/

/-- A verdict comes with one entry for every rule. -/
theorem Ledger.judge_statistics {l l' : Ledger} {s : Evaluation.Scope} {rules : List CompiledRule} {v : Verdict}
    (h : l.judge s rules = (l', .ok v)) : ∃ tests, Verdict.Tested s rules tests ∧
      l'.statistics = l.statistics.recordAll (tests.map fun t => (t.1.key, t.2.stats)) := by
  unfold judge at h
  have htested : ∀ tests, (Verdict.runAll (fun r => do return (r, ← r.test s)) CompiledRule.testCost rules).2 =
      .ok tests → Verdict.Tested s rules tests := fun _ => Verdict.tested_iff.mp
  generalize Verdict.runAll (fun r => do return (r, ← r.test s)) CompiledRule.testCost rules = run at h htested
  obtain ⟨spent, outcome⟩ := run
  cases outcome with
  | error f => cases h
  | ok tests =>
    refine ⟨tests, htested tests rfl, ?_⟩
    dsimp only at h
    split at h
    · cases h
    · split at h
      · cases h
      · cases h
        rfl

theorem Test.stats_sound (t : Test) : t.stats.Sound := by
  cases t <;> simp [stats, RuleStats.Sound]

theorem Verdict.total_tests {s : Evaluation.Scope} {rules : List CompiledRule} {tests : List (CompiledRule × Test)}
    (h : Tested s rules tests) (p : RuleKey → Bool) :
    Statistics.total RuleStats.evaluations p (tests.map fun t => (t.1.key, t.2.stats)) = rules.countP fun r => p r.key := by
  induction h with
  | nil => rfl
  | @cons r t rules tests ht _ ih =>
    have hone : t.2.stats.evaluations = 1 := by cases t.2 <;> rfl
    rw [List.map_cons, Statistics.total_cons, ih, hone, ht.1, List.countP_cons, Nat.add_comm]

namespace Course

/-- A run has processed so many words more, and has entered as many evaluations of every rule. -/
structure Enters (c : Course) (n : ℕ) (l l' : Ledger) (a a' : Application) : Prop where
  processed : a'.counters.wordsProcessed = a.counters.wordsProcessed + n
  evaluated : a'.counters.rulesEvaluated = a.counters.rulesEvaluated + n * c.rules.length
  recorded : ∀ p, l'.statistics.total RuleStats.evaluations p =
    l.statistics.total RuleStats.evaluations p + n * c.rules.countP fun r => p r.key
  sound : l.statistics.Sound → l'.statistics.Sound

variable {c : Course} {l l' l'' : Ledger} {a a' a'' : Application}

theorem enters_zero (c : Course) (l : Ledger) (h : a'.counters.wordsProcessed = a.counters.wordsProcessed)
    (hr : a'.counters.rulesEvaluated = a.counters.rulesEvaluated) : c.Enters 0 l l a a' where
  processed := h
  evaluated := by rw [hr, Nat.zero_mul, Nat.add_zero]
  recorded p := by rw [Nat.zero_mul, Nat.add_zero]
  sound := id

theorem Enters.trans {m n : ℕ} (h : c.Enters m l l' a a') (h' : c.Enters n l' l'' a' a'') :
    c.Enters (m + n) l l'' a a'' where
  processed := by rw [h'.processed, h.processed, Nat.add_assoc]
  evaluated := by rw [h'.evaluated, h.evaluated, Nat.add_mul, Nat.add_assoc]
  recorded p := by rw [h'.recorded, h.recorded, Nat.add_mul, Nat.add_assoc]
  sound := h'.sound ∘ h.sound

/-- A word with a verdict is one more word, with one evaluation of every rule. -/
theorem enters_add {p : PlacedWord} {v : Verdict} (h : c.judge l p = (l', .ok v)) (a : Application) :
    c.Enters 1 l l' a (a.add p.id v) := by
  obtain ⟨tests, htests, hl⟩ := Ledger.judge_statistics h
  have hevaluations : v.stats.evaluations = c.rules.length := Ledger.evaluations_of_judge (congrArg Prod.snd h)
  exact {
    processed := rfl
    evaluated := by rw [Nat.one_mul, ← hevaluations]; rfl
    recorded := fun p => by
      rw [hl, Statistics.total_recordAll additive_evaluations, Verdict.total_tests htests, Nat.one_mul]
    sound := fun hs => by
      rw [hl]
      refine hs.recordAll fun e he => ?_
      obtain ⟨t, -, rfl⟩ := List.mem_map.mp he
      exact t.2.stats_sound }

end Course

/-- None of the errors is that of a word whose rules could not be judged. -/
def Application.SparesWords (a : Application) : Prop :=
  ∀ wordId (f : Fault), "Failed to select animations for word " ++ wordId ++ ": " ++ f.message ∉ a.errors

namespace Course

variable {c : Course} {l l' : Ledger} {a a' : Application}

/-- A run keeps the errors it begins with. -/
theorem Ends.errors_subset {words : List PlacedWord} (h : c.Ends words l a l' a') : a.errors ⊆ a'.errors := by
  induction h with
  | done | cut => exact List.Subset.refl _
  | skip _ _ _ ih | add _ _ _ _ ih => exact ih
  | fail _ _ _ _ ih => exact fun e he => ih (List.mem_append_left _ he)

/-- A run of which no word fails enters every word that it processes. -/
theorem Ends.enters {words : List PlacedWord} (h : c.Ends words l a l' a') (hs : a'.SparesWords) :
    ∃ n, c.Enters n l l' a a' := by
  induction h with
  | done | cut => exact ⟨0, c.enters_zero _ rfl rfl⟩
  | @skip _ _ l _ a _ _ _ _ ih =>
    obtain ⟨n, hn⟩ := ih hs
    have hskip : c.Enters 0 l l a a.skip := c.enters_zero l rfl rfl
    exact ⟨0 + n, hskip.trans hn⟩
  | @add _ _ _ _ _ a _ _ _ _ hjudge _ ih =>
    obtain ⟨n, hn⟩ := ih hs
    exact ⟨1 + n, (enters_add hjudge a).trans hn⟩
  -- The fault can come after the tests have been recorded, while the word is never counted.
  | @fail p _ _ _ _ _ _ f _ _ _ hrest _ =>
    have hfailed := hrest.errors_subset (List.mem_append_right _ (List.mem_singleton_self _))
    exact absurd hfailed (hs p.id f)

/-- A run that faults does so before its first word. -/
theorem runFrom_error {words : List PlacedWord} {f : Fault} (h : c.runFrom words l a = (l', .error f)) : l' = l := by
  cases words with
  | nil => cases h
  | cons p rest =>
    cases ho : c.options.overdue with
    | ok late =>
      cases late with
      | false =>
        have hok := c.runFrom_eq_foldl ho (p :: rest) l a
        rw [h] at hok
        cases hok
      | true =>
        rw [runFrom, ho] at h
        dsimp only at h
        split at h <;> cases h
        rfl
    | error f' =>
      rw [runFrom, ho] at h
      cases h
      rfl

end Course

/-! ## Calls -/

namespace Session

variable {s : Session} {template : TemplateSource} {audio : Value} {options : OptionsSource}

/-- The run that a call ends in, when it gets as far. -/
structure Runs (s : Session) (template : TemplateSource) (audio : Value) (options : OptionsSource) (t : Template)
    (o : Options) (c : CompiledTemplate) (course : Course) : Prop where
  template_read : template.read = .ok t
  options_read : options.read s.settings = .ok (.ok o)
  compiled : (s.compiled t o.caching.truthy).2 = .ok c
  valid : c.isValid = true
  rules : o.filterRules c.rules = .ok course.rules
  run : ∃ (l : Ledger) (warnings : List String), l.statistics = s.ledger.statistics ∧
    course.run l warnings = ((s.apply template audio options).1.ledger, .ok (s.apply template audio options).2)

theorem applyCompiled_runs (s : Session) (c : CompiledTemplate) (t : Transcript) (o : Options) :
    (∃ f, (s.applyCompiled c t o).2 = .error f ∧ (s.applyCompiled c t o).1.ledger.statistics = s.ledger.statistics) ∨
    ∃ (course : Course) (a : Application), (s.applyCompiled c t o).2 = .ok a ∧ o.filterRules c.rules = .ok course.rules ∧
      ∃ (l : Ledger) (warnings : List String), l.statistics = s.ledger.statistics ∧
        course.run l warnings = ((s.applyCompiled c t o).1.ledger, .ok a) := by
  unfold applyCompiled
  dsimp only
  generalize VariableRun.compute s.helpers c t (if o.caching.truthy then some s.values else none) = computed
  obtain ⟨run, outcome⟩ := computed
  cases outcome with
  | error f => exact .inl ⟨f, rfl, rfl⟩
  | ok u =>
    cases hrules : o.filterRules c.rules with
    | error f => exact .inl ⟨f, rfl, rfl⟩
    | ok rules =>
      dsimp only
      generalize hrun : Course.run _ _ _ = ran
      obtain ⟨l, result⟩ := ran
      cases result with
      | error f => exact .inl ⟨f, rfl, by rw [Course.runFrom_error hrun]⟩
      | ok a =>
        refine .inr ⟨_, a, rfl, ?_, _, _, ?_, hrun⟩
        · rfl
        · rfl

/-- A call ends in a run, or leaves the statistics as they are and counts nothing. -/
theorem runs_or_idle (s : Session) (template : TemplateSource) (audio : Value) (options : OptionsSource) :
    (∃ t o c course, s.Runs template audio options t o c course) ∨
      (s.apply template audio options).1.ledger.statistics = s.ledger.statistics ∧
        (s.apply template audio options).2.counters = {} := by
  rcases s.read_or_refused template audio options with ⟨hknown, t, o, ht, ho⟩ | ⟨errors, warnings, hrefused⟩
  · have hledger := s.ledger_compiled t o.caching.truthy
    rcases s.refused_or_applied hknown ht ho audio with ⟨errors, warnings, hrefused⟩ | ⟨c, given, hc, hv, -, happly⟩
    · rw [hrefused]
      exact .inr ⟨congrArg Ledger.statistics hledger, rfl⟩
    · have hruns := (s.compiled t o.caching.truthy).1.applyCompiled_runs c given.placed o
      rw [hledger] at hruns
      generalize (s.compiled t o.caching.truthy).1.applyCompiled c given.placed o = applied at happly hruns
      obtain ⟨s', outcome⟩ := applied
      rcases hruns with ⟨f, rfl, hstatistics⟩ | ⟨course, a, rfl, hrules, l, warnings, hl, hrun⟩
      · rw [happly]
        exact .inr ⟨hstatistics, rfl⟩
      · refine .inl ⟨t, o, c, course, ht, ho, hc, hv, hrules, l, warnings, hl, ?_⟩
        rw [happly]
        exact hrun
  · rw [hrefused]
    exact .inr ⟨rfl, rfl⟩

/-! ## Kept templates -/

/-- Every kept template is what some template of its id and version compiles to. -/
def KeepsCompiled (s : Session) : Prop :=
  s.templates.Holds fun key c => ∃ helpers t, Template.key t = key ∧ Template.analyze helpers t = .ok c

theorem KeepsCompiled.compiled (h : s.KeepsCompiled) (t : Template) (useCache : Bool) :
    (s.compiled t useCache).1.KeepsCompiled ∧ ∀ c, (s.compiled t useCache).2 = .ok c →
      ∃ helpers source, Template.key source = t.key ∧ Template.analyze helpers source = .ok c := by
  unfold Session.compiled
  split
  · exact ⟨h, fun c hc => ⟨_, t, rfl, hc⟩⟩
  · have hleft := h.find t.key
    rcases hf : s.templates.find t.key with ⟨_ | found, left⟩
    · rw [hf] at hleft
      cases ha : Template.analyze s.helpers t with
      | error f => exact ⟨hleft, nofun⟩
      | ok c => exact ⟨hleft.set ⟨_, t, rfl, ha⟩, fun c' hc => ⟨_, t, rfl, ha.trans hc⟩⟩
    · rw [hf] at hleft
      refine ⟨hleft, fun c hc => ?_⟩
      obtain rfl := Except.ok.inj hc
      exact h.find_some (congrArg Prod.fst hf)

theorem applyCompiled_templates (s : Session) (c : CompiledTemplate) (t : Transcript) (o : Options) :
    (s.applyCompiled c t o).1.templates = s.templates := by
  unfold applyCompiled
  dsimp only
  split <;> rfl

theorem keepsCompiled_clear (s : Session) : s.clear.KeepsCompiled := s.templates.holds_clear

theorem KeepsCompiled.apply (h : s.KeepsCompiled) (template : TemplateSource) (audio : Value) (options : OptionsSource) :
    (s.apply template audio options).1.KeepsCompiled := by
  refine apply_keeps (fun t useCache h => (h.compiled t useCache).1) (fun s c t o h => ?_) h template audio options
  rwa [KeepsCompiled, s.applyCompiled_templates]

end Session

/-! ## Rules -/

/-- A compiled rule knows its template. -/
theorem CompiledTemplate.template_of_mem {helpers : Registry} {t : Template} {c : CompiledTemplate}
    (h : Template.analyze helpers t = .ok c) {r : CompiledRule} (hr : r ∈ c.rules) : r.template = t.id := by
  obtain ⟨-, index, hat⟩ := enabled_and_compiled h hr
  unfold Template.compiledAt Template.compileRule at hat
  split at hat
  · split at hat
    · rw [List.mem_singleton.mp hat]
    · cases hat
  · cases hat

section Rules

variable {rules : List CompiledRule} {id : String}

/-- Of the rules of a template, a key asks for the one with its id, if the template is its own. -/
theorem countP_asked (hid : ∀ r ∈ rules, r.template = id) (hn : (rules.map CompiledRule.id).Nodup)
    (template rule : String) : rules.countP (fun r => Statistics.asked rule (some template) r.key) =
      if id = template ∧ rule ∈ rules.map CompiledRule.id then 1 else 0 := by
  have hasked : ∀ r ∈ rules, Statistics.asked rule (some template) r.key = (r.id == rule && template == id) := by
    intro r hr
    rw [← hid r hr]
    rfl
  rw [List.countP_congr fun r hr => by rw [hasked r hr]]
  by_cases ht : id = template
  · subst ht
    have hcount : rules.countP (fun r => r.id == rule) = (rules.map CompiledRule.id).count rule := by
      rw [List.count, List.countP_map]
      rfl
    simp only [beq_self_eq_true, Bool.and_true, true_and, hcount]
    split
    · next hmem => exact List.count_eq_one_of_mem hn hmem
    · next hmem => exact List.count_eq_zero.mpr hmem
  · have hne : (template == id) = false := beq_eq_false_iff_ne.mpr (Ne.symm ht)
    simp [hne, ht]

theorem countP_template (hid : ∀ r ∈ rules, r.template = id) (template : String) :
    rules.countP (fun r => r.key.template == template) = if id = template then rules.length else 0 := by
  split
  · next ht => exact List.countP_eq_length.mpr fun r hr => beq_iff_eq.mpr ((hid r hr).trans ht)
  · next ht => exact List.countP_eq_zero.mpr fun r hr he => ht ((hid r hr).symm.trans (eq_of_beq he))

end Rules

/-! ## Books -/

namespace Session

/-- The template of a call and the rules by which it judges words, by their ids. -/
def takes? (s : Session) (template : TemplateSource) (options : OptionsSource) : Option (String × List String) := do
  let t ← template.read.toOption
  let o ← (← (options.read s.settings).toOption).toOption
  let c ← (s.compiled t o.caching.truthy).2.toOption
  let rules ← (o.filterRules c.rules).toOption
  return (t.id, rules.map CompiledRule.id)

namespace Call

/-- The words that a call processes, if the rule of the template takes part in it. -/
def processed (templateId ruleId : String) (s : Session) : Call → ℕ
  | .apply template audio options =>
    if (s.takes? template options).any fun (id, rules) => id == templateId && rules.contains ruleId then
      (s.apply template audio options).2.counters.wordsProcessed
    else 0
  | _ => 0

/-- The evaluations that a call reports, if it is of the template. -/
def evaluated (templateId : String) (s : Session) : Call → ℕ
  | .apply template audio options =>
    if template.read.toOption.any fun t => t.id == templateId then
      (s.apply template audio options).2.counters.rulesEvaluated
    else 0
  | _ => 0

/-- The call is no selection for a single word, and its result reports no word that failed. -/
def Spares (s : Session) : Call → Prop
  | .apply template audio options => (s.apply template audio options).2.SparesWords
  | .select _ _ _ => False
  | .compile _ _ | .validate _ | .clear => True

end Call

/-- What calls add up to since the last clear, given what earlier ones add up to. -/
def sumSinceClear (amount : Session → Call → ℕ) : Session → ℕ → List Call → ℕ
  | _, before, [] => before
  | s, _, .clear :: rest => sumSinceClear amount s.clear 0 rest
  | s, before, call :: rest => sumSinceClear amount (s.after call) (before + amount s call) rest

/-- In no call does a word fail. -/
def Untroubled : Session → List Call → Prop
  | _, [] => True
  | s, call :: rest => call.Spares s ∧ Untroubled (s.after call) rest

/-- The books of a session agree with sums for every rule of a template, and for every template. -/
structure Books (s : Session) (rules : String → String → ℕ) (templates : String → ℕ) : Prop where
  kept : s.KeepsCompiled
  sound : s.ledger.statistics.Sound
  rules_total : ∀ t r, s.ledger.statistics.total RuleStats.evaluations (Statistics.asked r (some t)) = rules t r
  templates_total : ∀ t, s.ledger.statistics.total RuleStats.evaluations (·.template == t) = templates t

variable {s : Session} {rules : String → String → ℕ} {templates : String → ℕ}

/-- A run of which no word fails goes into the books. -/
theorem Books.run (h : s.Books rules templates) {template : TemplateSource} {audio : Value} {options : OptionsSource}
    {t : Template} {o : Options} {c : CompiledTemplate} {course : Course}
    (hr : s.Runs template audio options t o c course) (hs : (s.apply template audio options).2.SparesWords) :
    (s.apply template audio options).1.Books
      (fun t r => rules t r + Call.processed t r s (.apply template audio options))
      (fun t => templates t + Call.evaluated t s (.apply template audio options)) := by
  obtain ⟨l, warnings, hl, hrun⟩ := hr.run
  obtain ⟨n, henters⟩ := (Course.ends_iff.mpr hrun).enters hs
  -- The rules may be those of another template, which was kept under the same id and version.
  obtain ⟨helpers, source, hkey, hc⟩ := (h.kept.compiled t o.caching.truthy).2 c hr.compiled
  have hid : source.id = t.id := congrArg Prod.fst hkey
  have hsublist := Options.filterRules_sublist hr.rules
  have htemplate : ∀ r ∈ course.rules, r.template = t.id :=
    fun r hmem => (CompiledTemplate.template_of_mem hc (hsublist.subset hmem)).trans hid
  have hids := (CompiledTemplate.rules_id_nodup hc hr.valid).sublist (hsublist.map CompiledRule.id)
  have htakes : s.takes? template options = some (t.id, course.rules.map CompiledRule.id) := by
    simp [takes?, hr.template_read, hr.options_read, hr.compiled, hr.rules, Except.toOption]
  have hprocessed : (s.apply template audio options).2.counters.wordsProcessed = n :=
    henters.processed.trans (Nat.zero_add n)
  have hevaluated : (s.apply template audio options).2.counters.rulesEvaluated = n * course.rules.length :=
    henters.evaluated.trans (Nat.zero_add _)
  exact {
    kept := h.kept.apply template audio options
    sound := henters.sound (hl ▸ h.sound)
    rules_total := fun t' r => by
      rw [henters.recorded, hl, h.rules_total, countP_asked htemplate hids, Call.processed, htakes, hprocessed]
      have htaken : (some (t.id, course.rules.map CompiledRule.id)).any
          (fun x => x.1 == t' && x.2.contains r) = true ↔ t.id = t' ∧ r ∈ course.rules.map CompiledRule.id := by simp
      rw [if_congr htaken rfl rfl, mul_ite, Nat.mul_one, Nat.mul_zero]
    templates_total := fun t' => by
      rw [henters.recorded, hl, h.templates_total, countP_template htemplate, Call.evaluated, hr.template_read,
        hevaluated]
      have htaken : (Except.ok (ε := Fault) t).toOption.any (fun t => t.id == t') = true ↔ t.id = t' := by
        simp [Except.toOption]
      rw [if_congr htaken rfl rfl, mul_ite, Nat.mul_zero] }

/-- A session with the statistics of another, and templates as they are kept, has its books. -/
theorem Books.of_statistics {s' : Session} (h : s.Books rules templates) (hk : s'.KeepsCompiled)
    (hl : s'.ledger.statistics = s.ledger.statistics) : s'.Books rules templates where
  kept := hk
  sound := hl ▸ h.sound
  rules_total t r := by rw [hl, h.rules_total]
  templates_total t := by rw [hl, h.templates_total]

theorem books_empty {s : Session} (hk : s.KeepsCompiled) (hl : s.ledger.statistics = []) :
    s.Books (fun _ _ => 0) fun _ => 0 where
  kept := hk
  sound := hl ▸ Statistics.sound_nil
  rules_total t r := by rw [hl, Statistics.total_nil]
  templates_total t := by rw [hl, Statistics.total_nil]

theorem books_new {settings : Settings} {helpers : Registry} {templateCacheSize variableCacheSize : Option Int}
    (h : Session.new settings helpers templateCacheSize variableCacheSize = .ok s) :
    s.Books (fun _ _ => 0) fun _ => 0 := by
  unfold Session.new at h
  obtain ⟨kept, htemplates, h⟩ := bind_eq_ok_iff.mp h
  obtain ⟨values, -, h⟩ := bind_eq_ok_iff.mp h
  cases h
  exact books_empty (Recent.holds_of_ofSize htemplates) rfl

/-- A call of which no word fails adds to the books what it processes. -/
theorem Books.apply (h : s.Books rules templates) (template : TemplateSource) (audio : Value) (options : OptionsSource)
    (hs : (s.apply template audio options).2.SparesWords) :
    (s.apply template audio options).1.Books
      (fun t r => rules t r + Call.processed t r s (.apply template audio options))
      (fun t => templates t + Call.evaluated t s (.apply template audio options)) := by
  rcases s.runs_or_idle template audio options with ⟨t, o, c, course, hruns⟩ | ⟨hstatistics, hcounters⟩
  · exact h.run hruns hs
  -- A refused call may still name a template and its rules, but has processed no word of it.
  · have hprocessed : ∀ t r, Call.processed t r s (.apply template audio options) = 0 := by
      intro t r
      rw [Call.processed, hcounters, ite_self]
    have hevaluated : ∀ t, Call.evaluated t s (.apply template audio options) = 0 := by
      intro t
      rw [Call.evaluated, hcounters, ite_self]
    simp only [hprocessed, hevaluated, Nat.add_zero]
    exact h.of_statistics (h.kept.apply template audio options) hstatistics

theorem books_clear (s : Session) : s.clear.Books (fun _ _ => 0) fun _ => 0 := books_empty s.keepsCompiled_clear rfl

/-- After calls of which no word fails, the books agree with what the calls add up to since the last clear. -/
theorem Books.afterAll (h : s.Books rules templates) {calls : List Call} (hu : s.Untroubled calls) :
    (s.afterAll calls).Books (fun t r => sumSinceClear (Call.processed t r) s (rules t r) calls)
      (fun t => sumSinceClear (Call.evaluated t) s (templates t) calls) := by
  induction calls generalizing s rules templates with
  | nil => exact h
  | cons call rest ih =>
    obtain ⟨hspares, hrest⟩ := hu
    cases call with
    | apply template audio options => exact ih (h.apply template audio options hspares) hrest
    | compile template useCache =>
      have hcompiled := h.of_statistics (h.kept.compiled template useCache).1
        (congrArg Ledger.statistics (s.ledger_compiled template useCache))
      exact ih hcompiled hrest
    | validate template => exact ih h hrest
    | select template context options => exact hspares.elim
    | clear => exact ih s.books_clear hrest

end Session
end CaptionAnimation
