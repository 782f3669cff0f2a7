import CaptionAnimation.Proofs.Cache.Recent
import CaptionAnimation.Proofs.Template.Compilation
import CaptionAnimation.Proofs.Value.Placed
import CaptionAnimation.Selection.Variables
import Mathlib.Data.List.Nodup

/-! # Variables with and without a cache

Computing variables without keeping anything is the reference: each variable is evaluated where those before it have
their values. With a cache, some values are found instead. As long as every kept value is the one that its variable
has in the reference, and no kept value holds an undefined number that was made outside the transcript, both give the
same values and the same warnings, and leave such a cache behind. -/
namespace CaptionAnimation

namespace VariableRun

/-- Computes variables one after the other, each anew. -/
def plainFrom (helpers : Registry) (t : Transcript) : List CompiledVariable → VariableRun →
    VariableRun × Except Fault Unit
  | [], run => (run, .ok ())
  | v :: rest, run =>
    match run.evaluate helpers t v fun _ run => run with
    | (run, .ok ()) => plainFrom helpers t rest run
    | (run, .error f) => (run, .error f)

theorem plainFrom_append {helpers : Registry} {t : Transcript} {before rest : List CompiledVariable}
    {run middle : VariableRun} (h : plainFrom helpers t before run = (middle, .ok ())) :
    plainFrom helpers t (before ++ rest) run = plainFrom helpers t rest middle := by
  induction before generalizing run with
  | nil =>
    obtain rfl : run = middle := congrArg Prod.fst h
    rfl
  | cons v before ih =>
    rw [plainFrom] at h
    rw [List.cons_append, plainFrom]
    generalize (run.evaluate helpers t v fun _ run => run) = step at h ⊢
    obtain ⟨next, outcome⟩ := step
    cases outcome with
    | error f => cases h
    | ok u => exact ih h

/-- The value of a variable that is computed in this run, with the places of the undefined numbers in it. -/
def made (run : VariableRun) (helpers : Registry) (t : Transcript) (v : CompiledVariable) : Evaluation.Outcome :=
  (v.value helpers t run.values).map (Value.placed [run.done + 1, run.age + 1])

/-- What one evaluation does to a run, by what it makes. -/
theorem evaluate_eq (run : VariableRun) (helpers : Registry) (t : Transcript) (v : CompiledVariable)
    (keep : Value → VariableRun → VariableRun) :
    run.evaluate helpers t v keep =
      match run.made helpers t v with
      | .ok value => (keep value ({ run with evaluated := run.evaluated + 1 }.assign v.name value), .ok ())
      | .error (.fault f) => ({ run with evaluated := run.evaluated + 1 }, .error f)
      | .error failure =>
        ({ { run with evaluated := run.evaluated + 1 }.assign v.name .null with
           warnings := run.warnings ++ ["Failed to compute variable '" ++ v.name ++ "': " ++ failure.message] }, .ok ()) := by
  have hdone : ({ run with evaluated := run.evaluated + 1 } : VariableRun).done = run.done + 1 := by
    simp only [done]
    omega
  unfold evaluate made
  dsimp only
  rw [hdone]
  cases v.value helpers t run.values with
  | ok value => rfl
  | error failure => cases failure <;> rfl

theorem evaluate_cache (run : VariableRun) (helpers : Registry) (t : Transcript) (v : CompiledVariable) :
    (run.evaluate helpers t v fun _ run => run).1.cache = run.cache := by
  rw [evaluate_eq]
  split <;> rfl

/-- Without a cache, computing variables is the reference. -/
theorem computeFrom_eq_plainFrom (helpers : Registry) (c : CompiledTemplate) (t : Transcript) (fingerprint : String)
    (vs : List CompiledVariable) {run : VariableRun} (h : run.cache = none) :
    computeFrom helpers c t fingerprint vs run = plainFrom helpers t vs run := by
  induction vs generalizing run with
  | nil => rfl
  | cons v rest ih =>
    have hstep : run.step helpers t v ⟨c.id, c.version, v.name, fingerprint⟩ =
        run.evaluate helpers t v fun _ run => run := by
      simp only [step, h, ite_self]
    have hcache : (run.evaluate helpers t v fun _ run => run).1.cache = none := by
      rw [evaluate_cache, h]
    unfold computeFrom plainFrom
    rw [hstep]
    generalize (run.evaluate helpers t v fun _ run => run) = next at hcache ⊢
    obtain ⟨next, outcome⟩ := next
    cases outcome with
    | error f => rfl
    | ok u => exact ih hcache

theorem plainFrom_cache (helpers : Registry) (t : Transcript) (vs : List CompiledVariable) (run : VariableRun) :
    (plainFrom helpers t vs run).1.cache = run.cache := by
  induction vs generalizing run with
  | nil => rfl
  | cons v rest ih =>
    have hcache := evaluate_cache run helpers t v
    unfold plainFrom
    generalize (run.evaluate helpers t v fun _ run => run) = next at hcache ⊢
    obtain ⟨next, outcome⟩ := next
    cases outcome with
    | error f => exact hcache
    | ok u => exact (ih next).trans hcache

/-- A computation without a cache makes none. -/
theorem compute_none_cache (helpers : Registry) (c : CompiledTemplate) (t : Transcript) :
    (compute helpers c t none).1.cache = none := by
  unfold compute
  dsimp only [Option.elim_none]
  split
  · rfl
  · rw [computeFrom_eq_plainFrom _ _ _ _ _ rfl, plainFrom_cache]

/-- A value that a template keeps over a transcript: the one that a variable marked for it has in the reference. -/
def Keeps (helpers : Registry) (c : CompiledTemplate) (t : Transcript) (name : String) (value : Value) : Prop :=
  ∃ before v after run, c.declarations = before ++ v :: after ∧ v.name = name ∧ v.declaration.cached = true ∧
    plainFrom helpers t before {} = (run, .ok ()) ∧ run.made helpers t v = .ok value

/-- Where names are unique, a name has one variable with one set of variables before it. -/
theorem split_unique {vs before after before' after' : List CompiledVariable} {v v' : CompiledVariable}
    (hn : (vs.map CompiledVariable.name).Nodup) (h : vs = before ++ v :: after) (h' : vs = before' ++ v' :: after')
    (hname : v.name = v'.name) : before = before' ∧ v = v' := by
  subst h'
  obtain rfl : v = v' := List.inj_on_of_nodup_map hn (by simp [h]) (by simp) hname
  obtain ⟨-, hcons, hbefore⟩ := List.nodup_append.mp (List.Nodup.of_map _ hn)
  have hnotbefore : v ∉ before' := fun hm => hbefore v hm v List.mem_cons_self rfl
  obtain ⟨he, -, -⟩ := (List.append_cons_inj_of_notMem hnotbefore (List.nodup_cons.mp hcons).1).mp h
  exact ⟨he.symm, rfl⟩

/-- What is kept for a variable is what the reference makes of it. -/
theorem keeps_iff {helpers : Registry} {c : CompiledTemplate} {t : Transcript}
    (hn : (c.declarations.map CompiledVariable.name).Nodup) {before after : List CompiledVariable}
    {v : CompiledVariable} (hd : c.declarations = before ++ v :: after) (hv : v.declaration.cached = true)
    {run : VariableRun} (hr : plainFrom helpers t before {} = (run, .ok ())) (value : Value) :
    Keeps helpers c t v.name value ↔ run.made helpers t v = .ok value := by
  constructor
  · rintro ⟨before', v', after', run', hd', hname, -, hr', hm⟩
    obtain ⟨rfl, rfl⟩ := split_unique hn hd hd' hname.symm
    obtain rfl : run = run' := congrArg Prod.fst (hr.symm.trans hr')
    exact hm
  · intro hm
    exact ⟨before, v, after, run, hd, rfl, hv, hr, hm⟩

/-- Checks every value that is kept on the way. -/
def allKept (p : Value → Bool) (helpers : Registry) (t : Transcript) : List CompiledVariable → VariableRun → Bool
  | [], _ => true
  | v :: rest, run =>
    (!v.declaration.cached || (run.made helpers t v).toOption.all p) &&
      match run.evaluate helpers t v fun _ run => run with
      | (run, .ok ()) => allKept p helpers t rest run
      | (_, .error _) => true

theorem allKept_split {p : Value → Bool} {helpers : Registry} {t : Transcript} {before after : List CompiledVariable}
    {v : CompiledVariable} (hv : v.declaration.cached = true) {start run : VariableRun}
    (hr : plainFrom helpers t before start = (run, .ok ())) {value : Value}
    (hm : run.made helpers t v = .ok value) (h : allKept p helpers t (before ++ v :: after) start = true) :
    p value = true := by
  induction before generalizing start with
  | nil =>
    obtain rfl : start = run := congrArg Prod.fst hr
    simp only [List.nil_append, allKept, hv, hm, Bool.and_eq_true] at h
    simpa [Except.toOption] using h.1
  | cons w before ih =>
    rw [plainFrom] at hr
    rw [List.cons_append, allKept, Bool.and_eq_true] at h
    generalize (start.evaluate helpers t w fun _ run => run) = next at hr h
    obtain ⟨next, outcome⟩ := next
    cases outcome with
    | error f => cases hr
    | ok u => exact ih hr h.2

/-- A check of every kept value is one of all that a template keeps. -/
theorem Keeps.of_allKept {p : Value → Bool} {helpers : Registry} {c : CompiledTemplate} {t : Transcript}
    (h : allKept p helpers t c.declarations {} = true) {name : String} {value : Value}
    (hk : Keeps helpers c t name value) : p value = true := by
  obtain ⟨before, v, after, run, hd, -, hv, hr, hm⟩ := hk
  exact allKept_split hv hr hm (hd ▸ h)

/-- A run is where the reference is, whatever it found instead of evaluating. -/
structure Agrees (run plain : VariableRun) : Prop where
  values : run.values = plain.values
  warnings : run.warnings = plain.warnings
  done : run.done = plain.done
  age : run.age = plain.age

theorem Agrees.made_eq {run plain : VariableRun} (h : run.Agrees plain) (helpers : Registry) (t : Transcript)
    (v : CompiledVariable) : run.made helpers t v = plain.made helpers t v := by
  simp only [made, h.values, h.done, h.age]

theorem Agrees.assign {run plain : VariableRun} (h : run.Agrees plain) (name : String) (value : Value) :
    (run.assign name value).Agrees (plain.assign name value) :=
  ⟨congrArg (Entries.put (.text name) value) h.values, h.warnings, h.done, h.age⟩

theorem Agrees.evaluated {run plain : VariableRun} (h : run.Agrees plain) :
    Agrees { run with evaluated := run.evaluated + 1 } { plain with evaluated := plain.evaluated + 1 } := by
  have hdone := h.done
  refine ⟨h.values, h.warnings, ?_, h.age⟩
  simp only [VariableRun.done] at hdone ⊢
  omega

/-- Finding a value counts as much as evaluating. -/
theorem Agrees.found {run plain : VariableRun} (h : run.Agrees plain) (cache : VariableCache) :
    Agrees { run with cache := some cache, cacheHits := run.cacheHits + 1 }
      { plain with evaluated := plain.evaluated + 1 } := by
  have hdone := h.done
  refine ⟨h.values, h.warnings, ?_, h.age⟩
  simp only [VariableRun.done] at hdone ⊢
  omega

/-- A run has a cache of which something holds. -/
def Caches (P : VariableKey → Value → Prop) (run : VariableRun) : Prop := ∃ cache, run.cache = some cache ∧ cache.Holds P

/-- Evaluating where the reference evaluates, and keeping right values only, goes on agreeing. -/
theorem Agrees.evaluate {P : VariableKey → Value → Prop} {run plain : VariableRun} (h : run.Agrees plain)
    (hc : run.Caches P) (helpers : Registry) (t : Transcript) (v : CompiledVariable)
    {keep : Value → VariableRun → VariableRun}
    (hk : ∀ value next, plain.made helpers t v = .ok value → next.cache = run.cache →
      (keep value next).Agrees next ∧ (keep value next).Caches P) :
    (run.evaluate helpers t v keep).2 = (plain.evaluate helpers t v fun _ run => run).2 ∧
      ((run.evaluate helpers t v keep).2 = .ok () →
        (run.evaluate helpers t v keep).1.Agrees (plain.evaluate helpers t v fun _ run => run).1) ∧
      (run.evaluate helpers t v keep).1.Caches P := by
  rw [evaluate_eq, evaluate_eq, h.made_eq]
  cases hm : plain.made helpers t v with
  | ok value =>
    obtain ⟨ha, hc⟩ := hk value ({ run with evaluated := run.evaluated + 1 }.assign v.name value) hm rfl
    have hb := h.evaluated.assign v.name value
    exact ⟨rfl, fun _ => ⟨ha.values.trans hb.values, ha.warnings.trans hb.warnings, ha.done.trans hb.done,
      ha.age.trans hb.age⟩, hc⟩
  | error failure =>
    have hb := h.evaluated.assign v.name .null
    have hw (message : String) : run.warnings ++ [message] = plain.warnings ++ [message] := by rw [h.warnings]
    cases failure with
    | fault f => exact ⟨rfl, nofun, hc⟩
    | malformed e => exact ⟨rfl, fun _ => ⟨hb.values, hw _, hb.done, hb.age⟩, hc⟩
    | evaluation e => exact ⟨rfl, fun _ => ⟨hb.values, hw _, hb.done, hb.age⟩, hc⟩

/-- Finding right values where the reference evaluates goes on agreeing. -/
theorem Agrees.step {P : VariableKey → Value → Prop} {run plain : VariableRun} (h : run.Agrees plain)
    (hc : run.Caches P) (helpers : Registry) (t : Transcript) (v : CompiledVariable) {key : VariableKey}
    (hkey : v.declaration.cached = true → ∀ value, P key value ↔ plain.made helpers t v = .ok value) :
    (run.step helpers t v key).2 = (plain.evaluate helpers t v fun _ run => run).2 ∧
      ((run.step helpers t v key).2 = .ok () →
        (run.step helpers t v key).1.Agrees (plain.evaluate helpers t v fun _ run => run).1) ∧
      (run.step helpers t v key).1.Caches P := by
  obtain ⟨cache, hrun, hp⟩ := hc
  unfold VariableRun.step
  cases hv : v.declaration.cached with
  | false => exact h.evaluate ⟨cache, hrun, hp⟩ helpers t v fun value next _ he => ⟨⟨rfl, rfl, rfl, rfl⟩, cache, he ▸ hrun, hp⟩
  | true =>
    simp only [hrun, if_true]
    have hfound := hp.find key
    rcases hf : cache.find key with ⟨_ | value, left⟩
    · rw [hf] at hfound
      have hmissed : Agrees { run with cache := some left } plain := ⟨h.values, h.warnings, h.done, h.age⟩
      refine hmissed.evaluate ⟨left, rfl, hfound⟩ helpers t v ?_
      intro value next hm _
      exact ⟨⟨rfl, rfl, rfl, rfl⟩, _, rfl, hfound.set ((hkey hv value).mpr hm)⟩
    · rw [hf] at hfound
      have hm := (hkey hv value).mp (hp.find_some (congrArg Prod.fst hf))
      rw [evaluate_eq, hm]
      exact ⟨rfl, fun _ => (h.found left).assign v.name value, left, rfl, hfound⟩

/-- Computing variables from right values agrees with the reference, and keeps values right. The variables `before`
are done; others may follow `vs`. -/
theorem computeFrom_agrees {P : VariableKey → Value → Prop} {helpers : Registry} {c : CompiledTemplate}
    {t : Transcript} {fingerprint : String} {start : VariableRun}
    (hkey : ∀ before v after plain, c.declarations = before ++ v :: after → v.declaration.cached = true →
      plainFrom helpers t before start = (plain, .ok ()) →
        ∀ value, P ⟨c.id, c.version, v.name, fingerprint⟩ value ↔ plain.made helpers t v = .ok value)
    {vs before : List CompiledVariable} (hd : before ++ vs <+: c.declarations) {run plain : VariableRun}
    (hb : plainFrom helpers t before start = (plain, .ok ())) (h : run.Agrees plain) (hc : run.Caches P) :
    (computeFrom helpers c t fingerprint vs run).2 = (plainFrom helpers t vs plain).2 ∧
      ((computeFrom helpers c t fingerprint vs run).2 = .ok () →
        (computeFrom helpers c t fingerprint vs run).1.Agrees (plainFrom helpers t vs plain).1) ∧
      (computeFrom helpers c t fingerprint vs run).1.Caches P := by
  induction vs generalizing before run plain with
  | nil => exact ⟨rfl, fun _ => h, hc⟩
  | cons v rest ih =>
    obtain ⟨after, hafter⟩ := hd
    have hright : v.declaration.cached = true → ∀ value,
        P ⟨c.id, c.version, v.name, fingerprint⟩ value ↔ plain.made helpers t v = .ok value :=
      fun hv => hkey before v (rest ++ after) plain (by simp [← hafter]) hv hb
    -- both sides make one step from runs that agree
    obtain ⟨hsame, hagrees, hcaches⟩ := h.step hc helpers t v hright
    have hnext : plainFrom helpers t (before ++ [v]) start = plainFrom helpers t [v] plain := plainFrom_append hb
    unfold computeFrom plainFrom
    rw [plainFrom] at hnext
    generalize run.step helpers t v ⟨c.id, c.version, v.name, fingerprint⟩ = step at hsame hagrees hcaches ⊢
    generalize (plain.evaluate helpers t v fun _ run => run) = reference at hsame hagrees hnext ⊢
    obtain ⟨next, outcome⟩ := step
    obtain ⟨plain', outcome'⟩ := reference
    obtain rfl : outcome = outcome' := hsame
    cases outcome with
    | error f => exact ⟨rfl, nofun, hcaches⟩
    | ok u => exact ih ⟨after, by simp [← hafter]⟩ hnext (hagrees rfl) hcaches

/-- Computing variables with a cache of right values, none of which holds a made undefined number, gives what computing
them without a cache gives. -/
theorem compute_agrees {P : VariableKey → Value → Prop} {helpers : Registry} {c : CompiledTemplate} {t : Transcript} {fingerprint : String}
    (hf : t.placed.fingerprint = .ok fingerprint) (hn : (c.declarations.map CompiledVariable.name).Nodup)
    (hkey : ∀ name value, P ⟨c.id, c.version, name, fingerprint⟩ value ↔ Keeps helpers c t.placed name value)
    {cache : VariableCache} (hp : cache.Holds P) (hage : cache.age = 0) :
    (compute helpers c t (some cache)).2 = (compute helpers c t none).2 ∧
      ((compute helpers c t (some cache)).2 = .ok () →
        (compute helpers c t (some cache)).1.Agrees (compute helpers c t none).1) ∧
      (compute helpers c t (some cache)).1.Caches P := by
  have hstart : Agrees { cache := some cache } {} := ⟨rfl, rfl, rfl, rfl⟩
  unfold compute
  simp only [Option.elim_some, Option.elim_none, hage, hf]
  split
  · exact ⟨rfl, fun _ => hstart, cache, rfl, hp⟩
  · have hplain : computeFrom helpers c t.placed "" c.declarations {} = plainFrom helpers t.placed c.declarations {} :=
      computeFrom_eq_plainFrom _ _ _ _ _ rfl
    rw [hplain]
    have hnone : plainFrom helpers t.placed [] {} = ({}, .ok ()) := rfl
    refine computeFrom_agrees (fun before v after plain hd hv hb value => ?_) (List.prefix_refl _) hnone hstart
      ⟨cache, rfl, hp⟩
    exact (hkey v.name value).trans (keeps_iff hn hd hv hb value)

end VariableRun

end CaptionAnimation
