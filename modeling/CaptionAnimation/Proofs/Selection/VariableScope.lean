import CaptionAnimation.Proofs.Selection.References

/-! # Names that need a word

Variables are computed where there is no word. A variable whose evaluation comes to the word or the segment is null, a
warning says what was not available, and validation has warned of the name. The counters that place a word need one as
well, and validation says so of them too, but where there is no word they stand at zero. -/
namespace CaptionAnimation

open Evaluation Expression

/-! ## Names without a word -/

namespace Context

/-- The counters that place a word in the transcript. -/
def placeNames : List String := ["wordIndex", "segmentIndex", "wordPositionInSegment"]

theorem root_of_placeNames (t : Transcript) (bindings : Entries) {name : String} (h : name ∈ placeNames) :
    (forVariables t bindings).root name = .ok (.int 0) := by
  simp only [placeNames, List.mem_cons, List.not_mem_nil, or_false] at h
  rcases h with rfl | rfl | rfl <;> rfl

theorem root_of_wordRootNames (t : Transcript) (bindings : Entries) {name : String} (h : name ∈ wordRootNames)
    (hp : name ∉ placeNames) : (forVariables t bindings).root name = .error (.unavailable name) := by
  simp only [wordRootNames, placeNames, List.mem_cons, List.not_mem_nil, or_false, not_or] at h hp
  rcases h with rfl | rfl | rfl | rfl | rfl
  · rfl
  · rfl
  · exact absurd rfl hp.1
  · exact absurd rfl hp.2.1
  · exact absurd rfl hp.2.2

/-- The name that is refused is the one that was asked for. -/
theorem eq_of_root_unavailable {c : Context} {name needed : String} (h : c.root name = .error (.unavailable needed)) :
    name = needed := by
  unfold root at h
  split at h
  · cases hw : c.word <;> simp_all
  · cases hs : c.segment <;> simp_all
  all_goals cases h

end Context

namespace Evaluation

variable {s : Scope} {needed : String}

/-- Nothing but a name is refused for being unavailable. -/
theorem Breaks.eq_name {n : Expr} (h : Breaks s n (.blame (.refused (.unavailable needed)))) :
    ∃ pos, n = .name pos needed := by
  rcases h.missing rfl with ⟨pos, name, f, rfl, hroot, hf⟩ | ⟨pos, name, args, rfl, -, hcause⟩ |
    ⟨pos, name, args, helper, rfl, -, -, hcause⟩
  · obtain rfl : Fault.unavailable needed = f := EvaluationError.Cause.refused.inj hf
    obtain rfl := Context.eq_of_root_unavailable hroot
    exact ⟨pos, rfl⟩
  · cases hcause
  · cases hcause

/-- The error of an expression that comes to a name which is not available. -/
def unavailableAt (s : Scope) (needed source : String) : EvaluationError :=
  ⟨.refused (.unavailable needed), source, some needed, some s.context.location⟩

/-- An evaluation fails for the lack of a name exactly when it comes to the name. -/
theorem eval_eq_unavailable_iff (hroot : s.context.root needed = .error (.unavailable needed)) {e : Expr} :
    eval s e = .error (.evaluation (unavailableAt s needed "")) ↔ ∃ pos, Reaches s e (.name pos needed) := by
  constructor
  · intro h
    obtain ⟨n, hn, r, hb, hsettle⟩ := exists_reaches_of_error (meaning_of_eval h)
    obtain ⟨rfl, -⟩ := settle_eq_evaluation hsettle
    obtain ⟨pos, rfl⟩ := hb.eq_name
    exact ⟨pos, hn⟩
  · rintro ⟨pos, h⟩
    refine h.eval_eq_error (eval_of_meaning ?_)
    rw [meaning, root_eq, hroot]
    rfl

end Evaluation

/-! ## Runs that go on -/

namespace VariableRun

variable {helpers : Registry} {t : Transcript} {run later : VariableRun}

/-- Where a run stands after some variables more: the values of all others are as they were, and the warnings are
followed by new ones. -/
structure GoesOn (run later : VariableRun) (names : List String) : Prop where
  values : ∀ name ∉ names, Entries.get? later.values name = Entries.get? run.values name
  warnings : run.warnings <+: later.warnings

theorem GoesOn.refl (run : VariableRun) (names : List String) : run.GoesOn run names :=
  ⟨fun _ _ => rfl, List.prefix_refl _⟩

theorem GoesOn.trans {last : VariableRun} {names more : List String} (h : run.GoesOn later names)
    (h' : later.GoesOn last more) : run.GoesOn last (names ++ more) := by
  refine ⟨fun name hname => ?_, h.warnings.trans h'.warnings⟩
  obtain ⟨hnames, hmore⟩ := not_or.mp (mt List.mem_append.mpr hname)
  rw [h'.values name hmore, h.values name hnames]

/-- Giving one variable a value goes on from there, with a warning or without. -/
theorem GoesOn.of_put {name : String} {value : Value} (hv : later.values = Entries.put (.text name) value run.values)
    (hw : run.warnings <+: later.warnings) : run.GoesOn later [name] := by
  refine ⟨fun other hother => ?_, hw⟩
  rw [hv, Entries.get?_put_of_ne (by simpa using hother)]

theorem goesOn_evaluate (run : VariableRun) (helpers : Registry) (t : Transcript) (v : CompiledVariable)
    (keep : Value → VariableRun → VariableRun) (hvalues : ∀ value next, (keep value next).values = next.values)
    (hwarnings : ∀ value next, (keep value next).warnings = next.warnings) :
    run.GoesOn (run.evaluate helpers t v keep).1 [v.name] := by
  rw [evaluate_eq]
  split
  · refine .of_put (hvalues _ _) ?_
    rw [hwarnings]
    exact List.prefix_refl _
  · exact ⟨fun _ _ => rfl, List.prefix_refl _⟩
  · exact .of_put rfl (List.prefix_append _ _)

/-- One variable changes no value but its own. -/
theorem goesOn_step (run : VariableRun) (helpers : Registry) (t : Transcript) (v : CompiledVariable)
    (key : VariableKey) : run.GoesOn (run.step helpers t v key).1 [v.name] := by
  unfold step
  split
  · exact run.goesOn_evaluate helpers t v _ (fun _ _ => rfl) fun _ _ => rfl
  · split
    · exact .of_put rfl (List.prefix_refl _)
    · next left _ =>
      -- asking the cache changes neither values nor warnings
      have hrest := goesOn_evaluate { run with cache := some left } helpers t v
        (fun value run => { run with cache := some (left.set key value) }) (fun _ _ => rfl) fun _ _ => rfl
      exact ⟨hrest.values, hrest.warnings⟩

/-- Variables change no values but their own. -/
theorem goesOn_computeFrom (helpers : Registry) (template : CompiledTemplate) (t : Transcript) (fingerprint : String)
    (vs : List CompiledVariable) (run : VariableRun) :
    run.GoesOn (computeFrom helpers template t fingerprint vs run).1 (vs.map CompiledVariable.name) := by
  induction vs generalizing run with
  | nil => exact .refl _ _
  | cons v rest ih =>
    have hstep := run.goesOn_step helpers t v ⟨template.id, template.version, v.name, fingerprint⟩
    unfold computeFrom
    split
    · next next hnext =>
      rw [hnext] at hstep
      exact hstep.trans (ih next)
    · next next f hnext =>
      rw [hnext] at hstep
      exact hstep.trans (.refl _ _)

/-- Only the identity of the template matters for where values are kept. -/
theorem computeFrom_declarations (c : CompiledTemplate) (declarations : List CompiledVariable) (fingerprint : String)
    (vs : List CompiledVariable) (run : VariableRun) :
    computeFrom helpers { c with declarations } t fingerprint vs run = computeFrom helpers c t fingerprint vs run := by
  induction vs generalizing run with
  | nil => rfl
  | cons v rest ih =>
    unfold computeFrom
    split <;> simp_all

theorem computeFrom_append {c : CompiledTemplate} {fingerprint : String} {before : List CompiledVariable}
    (rest : List CompiledVariable) (h : computeFrom helpers c t fingerprint before run = (later, .ok ())) :
    computeFrom helpers c t fingerprint (before ++ rest) run = computeFrom helpers c t fingerprint rest later := by
  induction before generalizing run with
  | nil =>
    obtain rfl : run = later := congrArg Prod.fst h
    rfl
  | cons v before ih =>
    rw [computeFrom] at h
    rw [List.cons_append, computeFrom]
    split at h
    · exact ih h
    · cases (Prod.mk.inj h).2

/-- The fingerprint that values are kept under; none is needed without a cache. -/
def fingerprintFor (t : Transcript) (cache : Option VariableCache) : Except Fault String :=
  cache.elim (.ok "") fun _ => t.placed.fingerprint

/-- The computation of all variables goes on from that of the first ones. -/
theorem compute_eq_computeFrom {c : CompiledTemplate} {before rest : List CompiledVariable} {v : CompiledVariable}
    {cache : Option VariableCache} {fingerprint : String} (hd : c.declarations = before ++ v :: rest)
    (hf : fingerprintFor t cache = .ok fingerprint)
    (h : compute helpers { c with declarations := before } t cache = (run, .ok ())) :
    compute helpers c t cache = computeFrom helpers c t.placed fingerprint (v :: rest) run := by
  have hne : ¬ (before ++ v :: rest).isEmpty = true := by simp
  unfold fingerprintFor at hf
  unfold compute at h ⊢
  dsimp only at h ⊢
  rw [hf] at h ⊢
  rw [hd, if_neg hne]
  split at h
  · next hempty =>
    obtain rfl := List.isEmpty_iff.mp hempty
    obtain rfl := congrArg Prod.fst h
    rfl
  · exact computeFrom_append (v :: rest) ((computeFrom_declarations c before fingerprint before _).symm.trans h)

/-- A variable is null, and a warning says why it has no value. -/
def FailedWith (run : VariableRun) (name : String) (err : EvaluationError) : Prop :=
  Entries.get? run.values name = some .null ∧
    "Failed to compute variable '" ++ name ++ "': " ++ err.message ∈ run.warnings

/-- Nothing is kept under a key. -/
def Lacks (run : VariableRun) (key : VariableKey) : Prop := ∀ cache, run.cache = some cache → (cache.find key).1 = none

theorem evaluate_of_error (run : VariableRun) {v : CompiledVariable} {err : EvaluationError}
    (hv : v.value helpers t run.values = .error (.evaluation err)) (keep : Value → VariableRun → VariableRun) :
    run.evaluate helpers t v keep =
      ({ { run with evaluated := run.evaluated + 1 }.assign v.name .null with
         warnings := run.warnings ++ ["Failed to compute variable '" ++ v.name ++ "': " ++ err.message] }, .ok ()) := by
  rw [evaluate_eq, made, hv]
  rfl

/-- A variable that is not kept and fails to evaluate is null, with a warning. -/
theorem step_of_error {v : CompiledVariable} {key : VariableKey} {err : EvaluationError}
    (hv : v.value helpers t run.values = .error (.evaluation err))
    (hl : v.declaration.cached = true → run.Lacks key) :
    ∃ next, run.step helpers t v key = (next, .ok ()) ∧ next.values = Entries.put (.text v.name) .null run.values ∧
      next.warnings = run.warnings ++ ["Failed to compute variable '" ++ v.name ++ "': " ++ err.message] := by
  unfold step
  split
  · exact ⟨_, run.evaluate_of_error hv _, rfl, rfl⟩
  · next cache hcache =>
    obtain ⟨hcached, hcache⟩ : v.declaration.cached = true ∧ run.cache = some cache := by simpa using hcache
    have hnone := hl hcached cache hcache
    split
    · next value left hfind =>
      rw [hfind] at hnone
      cases hnone
    · next left hfind => exact ⟨_, evaluate_of_error { run with cache := some left } hv _, rfl, rfl⟩

end VariableRun

/-! ## Variables that need a word -/

namespace CompiledTemplate

variable {helpers : Registry} {t : Template} {c : CompiledTemplate} {before after : List CompiledVariable}
  {v : CompiledVariable} {e : Expr}

/-- A compiled variable is read from its text, and validation warns of every name in it that needs a word. -/
theorem variable_warned (h : Template.analyze helpers t = .ok c) (hd : c.declarations = before ++ v :: after)
    (he : v.expression = some e) :
    (∃ source, v.declaration.expression = .text source ∧ parse source = .ok e) ∧
      ∀ name ∈ e.rootNames, name ∈ Context.wordRootNames →
        ∃ names, name ∈ names ∧ ⟨.needsWord (.variable v.name) names, none, some v.name⟩ ∈ c.warnings := by
  obtain ⟨-, -, hparts, -⟩ := Template.analyze_eq_ok h
  obtain ⟨seen, index, hv, hissues, -⟩ := Template.exists_variableFindings (hparts.symm.trans hd)
  have hread : (Template.checkExpression helpers (t.declarations.map Variable.name) (.variable v.declaration.name)
      v.declaration.expression).2 = some e :=
    (congrArg CompiledVariable.expression (List.head_eq_of_cons_eq hv)).trans he
  refine ⟨Template.checkExpression_eq_some hread, fun name hname hword => ?_⟩
  have hmem : name ∈ (sortedNames e.rootNames).filter Context.wordRootNames.contains := by
    simp [List.mem_filter, mem_sortedNames, hname, hword]
  refine ⟨_, hmem, List.mem_filter.mpr ⟨variableIssues_subset h (hissues ?_), rfl⟩⟩
  have hne : ((sortedNames e.rootNames).filter Context.wordRootNames.contains).isEmpty = false :=
    List.isEmpty_eq_false_iff.mpr (List.ne_nil_of_mem hmem)
  unfold Template.variableFindings
  simp [hread, Template.variableWarnings, hne, CompiledVariable.name]

/-- Where the evaluation of a variable comes to a name that needs a word, validation has warned of the name. The word
and the segment are then not available: evaluating the variable fails with an error that says so, and unless an older
value is kept for the variable, it is null and a warning quotes the error, whatever is computed after it. The counters
that place a word are zero instead. -/
theorem word_names_unavailable (h : Template.analyze helpers t = .ok c) (hd : c.declarations = before ++ v :: after)
    (he : v.expression = some e) {transcript : Transcript} {cache : Option VariableCache} {run : VariableRun}
    (hrun : VariableRun.compute helpers { c with declarations := before } transcript cache = (run, .ok ()))
    {name : String} {pos : Nat} (hname : name ∈ Context.wordRootNames)
    (hreach : Reaches ⟨.forVariables transcript.placed run.values, helpers⟩ e (.name pos name)) :
    (∃ names, name ∈ names ∧ ⟨.needsWord (.variable v.name) names, none, some v.name⟩ ∈ c.warnings) ∧
      if name ∈ Context.placeNames then
        eval ⟨.forVariables transcript.placed run.values, helpers⟩ (.name pos name) = .ok (.int 0)
      else
        ∃ source err, v.declaration.expression = .text source ∧ parse source = .ok e ∧
          err = ⟨.refused (.unavailable name), source, some name, some "template variables"⟩ ∧
          v.value helpers transcript.placed run.values = .error (.evaluation err) ∧
          ∀ fingerprint, VariableRun.fingerprintFor transcript cache = .ok fingerprint →
            (v.declaration.cached = true → run.Lacks ⟨c.id, c.version, v.name, fingerprint⟩) →
              (VariableRun.compute helpers c transcript cache).1.FailedWith v.name err := by
  obtain ⟨⟨source, hsource, hparse⟩, hwarned⟩ := variable_warned h hd he
  refine ⟨hwarned name (List.mem_filterMap.mpr ⟨_, hreach.mem_nodes, rfl⟩) hname, ?_⟩
  split
  · next hplace =>
    refine eval_of_meaning ?_
    rw [meaning, root_eq, Context.root_of_placeNames _ _ hplace]
    rfl
  · next hplace =>
    have hroot := Context.root_of_wordRootNames transcript.placed run.values hname hplace
    have heval := (eval_eq_unavailable_iff hroot).mpr ⟨pos, hreach⟩
    have hvalue : v.value helpers transcript.placed run.values =
        .error (.evaluation ⟨.refused (.unavailable name), source, some name, some "template variables"⟩) := by
      unfold CompiledVariable.value
      simp only [he, hsource]
      rw [evaluate, heval]
      rfl
    refine ⟨source, _, hsource, hparse, rfl, hvalue, fun fingerprint hf hlacks => ?_⟩
    obtain ⟨next, hstep, hvalues, hwarnings⟩ := VariableRun.step_of_error hvalue hlacks
    rw [VariableRun.compute_eq_computeFrom hd hf hrun, VariableRun.computeFrom, hstep]
    have hrest := VariableRun.goesOn_computeFrom helpers c transcript.placed fingerprint after next
    -- names are unique, so that nothing computed after the variable touches its value
    have hlater : v.name ∉ after.map CompiledVariable.name := by
      have hnodup := names_nodup h
      rw [hd, List.map_append, List.map_cons] at hnodup
      exact (List.nodup_cons.mp (List.nodup_append.mp hnodup).2.1).1
    refine ⟨(hrest.values v.name hlater).trans ?_, hrest.warnings.subset ?_⟩
    · rw [hvalues, Entries.get?_put_self]
    · rw [hwarnings]
      exact List.mem_append_right _ List.mem_cons_self

/-- A template with a variable that needs the segment wherever there are words, and one that needs none. -/
def opening : Template where
  id := "opening"
  rules := []
  declarations := [{ name := "late", expression := .text "totalWords and segment.end", cached := true },
    { name := "count", expression := .text "audioData.totalWords" }]
  name := .null
  version := none
  metadata := []

theorem opening_unavailable :
    ∃ c late count, Template.analyze .standard opening = .ok c ∧ c.declarations = [late, count] ∧ late.name = "late" ∧
      (VariableRun.compute .standard c murmur none).1.FailedWith "late"
        ⟨.refused (.unavailable "segment"), "totalWords and segment.end", some "segment",
          some "template variables"⟩ := by
  have hparse : parse "totalWords and segment.end" =
      .ok (.logical 11 .and (.name 0 "totalWords") (.member 22 (.name 15 "segment") "end" false)) := by cbv
  have hread : Template.expression? (.text "totalWords and segment.end") = _ := congrArg Except.toOption hparse
  rw [← Template.checkExpression_snd .standard ["late", "count"] (.variable "late")] at hread
  -- analysing a template without rules cannot fail, whatever its variables are read as
  obtain ⟨c, hc⟩ : ∃ c, Template.analyze .standard opening = .ok c := ⟨_, rfl⟩
  obtain ⟨late, count, hd, hlate, hexpression, hname⟩ :
      ∃ late count, c.declarations = [] ++ [late, count] ∧ late.expression = some _ ∧
        late.declaration.expression = .text "totalWords and segment.end" ∧ late.name = "late" :=
    ⟨_, _, (Template.analyze_eq_ok hc).2.2.1, hread, rfl, rfl⟩
  have hleft : eval ⟨.forVariables murmur.placed [], .standard⟩ (.name 0 "totalWords") = .ok (.int 1) := rfl
  obtain ⟨-, hfails⟩ := word_names_unavailable hc hd hlate
    (rfl : VariableRun.compute .standard { c with declarations := [] } murmur none = ({}, .ok ()))
    (by decide : "segment" ∈ Context.wordRootNames)
    (.head (.second hleft rfl) (.head .object .refl))
  rw [if_neg (by decide)] at hfails
  obtain ⟨source, err, hsource, -, rfl, -, hfailed⟩ := hfails
  cases hexpression.symm.trans hsource
  rw [hname] at hfailed
  exact ⟨c, late, count, hc, hd, hname, hfailed "" rfl fun _ cache hcache => by cases hcache⟩

/-- A template with a variable that is computed from the place of a word. -/
def placing : CompiledTemplate where
  id := "placing"
  version := none
  declarations := [⟨{ name := "place", expression := .text "wordIndex" }, some (.name 0 "wordIndex"), 0⟩]

/-- A counter needs a word as the other names do, but the variable gets a number and no warning. -/
theorem place_without_word :
    parse "wordIndex" = .ok (.name 0 "wordIndex") ∧ "wordIndex" ∈ Context.wordRootNames ∧
      Reaches ⟨.forVariables murmur.placed [], .standard⟩ (.name 0 "wordIndex") (.name 0 "wordIndex") ∧
      VariableRun.compute .standard placing murmur none =
        ({ values := [(.text "place", .int 0)], evaluated := 1 }, .ok ()) :=
  ⟨by cbv, by decide, .refl, rfl⟩

end CompiledTemplate

end CaptionAnimation
