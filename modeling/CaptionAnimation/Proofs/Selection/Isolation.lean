import CaptionAnimation.Proofs.Selection.References

/-! # Variables in order and in isolation

A run over the variables of a template leaves one value for each of them, in the order of their declaration. A variable
comes to what its expression gives where the variables before it have their values. If it fails it is null, adds one
warning and leaves nothing in the cache. What comes after it makes no difference to it, nor does what the rules say. -/
namespace CaptionAnimation

open Expression

namespace Entries

/-- A new key goes to the end. -/
theorem put_of_not_mem {key : String} {entries : Entries} (h : Value.text key ∉ entries.map Prod.fst) (value : Value) :
    Entries.put (.text key) value entries = entries ++ [(.text key, value)] := by
  induction entries with
  | nil => rfl
  | cons e rest ih =>
    obtain ⟨k, v⟩ := e
    simp only [List.map_cons, List.mem_cons, not_or] at h
    rw [Entries.put, if_neg fun hs => h.1 (same_text hs).symm, ih h.2, List.cons_append]

end Entries

/-- The warning that an outcome of the variable adds. -/
def CompiledVariable.warning? (v : CompiledVariable) : Evaluation.Outcome → Option String
  | .ok _ => none
  | .error failure => some ("Failed to compute variable '" ++ v.name ++ "': " ++ failure.message)

namespace VariableRun

variable {helpers : Registry} {t : Transcript}

/-! ## What a run has done -/

/-- What the variable at a place comes to: its value where the variables before the place have those of the run. -/
def outcomeAt (run : VariableRun) (helpers : Registry) (t : Transcript) (v : CompiledVariable) (place : Nat) :
    Evaluation.Outcome :=
  (v.value helpers t (run.values.take place)).map (Value.placed [place + 1, run.age + 1])

theorem outcomeAt_congr {run run' : VariableRun} {place : Nat}
    (hvalues : run.values.take place = run'.values.take place) (hage : run.age = run'.age) (v : CompiledVariable) :
    run.outcomeAt helpers t v place = run'.outcomeAt helpers t v place := by
  rw [outcomeAt, outcomeAt, hvalues, hage]

/-- A run has done the variables: it has the value of each, and the warning of each that failed. -/
structure Tells (helpers : Registry) (t : Transcript) (vs : List CompiledVariable) (run : VariableRun) : Prop where
  values : run.values = vs.zipIdx.map fun p =>
    (.text p.1.name, (run.outcomeAt helpers t p.1 p.2).toOption.getD .null)
  warnings : run.warnings = vs.zipIdx.filterMap fun p => p.1.warning? (run.outcomeAt helpers t p.1 p.2)
  done : run.done = vs.length

namespace Tells

variable {vs : List CompiledVariable} {run next : VariableRun}

theorem length_values (h : run.Tells helpers t vs) : run.values.length = vs.length := by
  rw [h.values, List.length_map, List.length_zipIdx]

theorem map_fst_values (h : run.Tells helpers t vs) :
    run.values.map Prod.fst = vs.map fun v => .text v.name := by
  rw [h.values, List.map_map]
  conv_rhs => rw [← List.zipIdx_map_fst 0 vs, List.map_map]
  rfl

theorem made_eq (h : run.Tells helpers t vs) (v : CompiledVariable) :
    run.made helpers t v = run.outcomeAt helpers t v vs.length := by
  rw [made, outcomeAt, h.done, List.take_of_length_le (Nat.le_of_eq h.length_values)]

theorem of_agrees {plain : VariableRun} (h : plain.Tells helpers t vs) (ha : run.Agrees plain) :
    run.Tells helpers t vs := by
  have houtcome : ∀ v place, run.outcomeAt helpers t v place = plain.outcomeAt helpers t v place := fun v place =>
    outcomeAt_congr (congrArg _ ha.values) ha.age v
  constructor
  · simp only [houtcome, ha.values, ← h.values]
  · simp only [houtcome, ha.warnings, ← h.warnings]
  · rw [ha.done, h.done]

/-- What a run has done stays so when it goes on. -/
theorem outcomeAt_eq (h : run.Tells helpers t vs) (hvalues : run.values <+: next.values) (hage : next.age = run.age)
    {p : CompiledVariable × Nat} (hp : p ∈ vs.zipIdx) :
    next.outcomeAt helpers t p.1 p.2 = run.outcomeAt helpers t p.1 p.2 := by
  have hlt : p.2 < vs.length := by
    have := List.snd_lt_add_of_mem_zipIdx hp
    omega
  obtain ⟨more, hmore⟩ := hvalues
  refine outcomeAt_congr ?_ hage p.1
  rw [← hmore, List.take_append_of_le_length]
  rw [h.length_values]
  omega

end Tells

/-! ## The reference, variable by variable -/

/-- What one evaluation that comes to its end does to a run. -/
theorem evaluate_eq_ok {run next : VariableRun} {v : CompiledVariable}
    (h : (run.evaluate helpers t v fun _ run => run) = (next, .ok ())) :
    next.values = Entries.put (.text v.name) ((run.made helpers t v).toOption.getD .null) run.values ∧
      next.warnings = run.warnings ++ (v.warning? (run.made helpers t v)).toList ∧
      next.done = run.done + 1 ∧ next.age = run.age := by
  have hdone : run.evaluated + 1 + run.cacheHits = run.evaluated + run.cacheHits + 1 := by omega
  rw [evaluate_eq] at h
  cases hm : run.made helpers t v with
  | ok value =>
    rw [hm] at h
    obtain rfl := (Prod.mk.inj h).1
    exact ⟨rfl, (List.append_nil _).symm, hdone, rfl⟩
  | error failure =>
    cases failure with
    | fault f =>
      rw [hm] at h
      cases (Prod.mk.inj h).2
    | malformed e =>
      rw [hm] at h
      obtain rfl := (Prod.mk.inj h).1
      exact ⟨rfl, rfl, hdone, rfl⟩
    | evaluation e =>
      rw [hm] at h
      obtain rfl := (Prod.mk.inj h).1
      exact ⟨rfl, rfl, hdone, rfl⟩

/-- A variable of a new name is done after the others. -/
theorem Tells.evaluate {vs : List CompiledVariable} {run next : VariableRun} {v : CompiledVariable}
    (h : run.Tells helpers t vs) (hv : v.name ∉ vs.map CompiledVariable.name)
    (he : (run.evaluate helpers t v fun _ run => run) = (next, .ok ())) :
    next.Tells helpers t (vs ++ [v]) ∧ run.values <+: next.values ∧ next.age = run.age := by
  obtain ⟨hvalues, hwarnings, hdone, hage⟩ := evaluate_eq_ok he
  have hfresh : Value.text v.name ∉ run.values.map Prod.fst := by
    rw [h.map_fst_values]
    simpa using hv
  rw [Entries.put_of_not_mem hfresh] at hvalues
  have hprefix : run.values <+: next.values := ⟨_, hvalues.symm⟩
  have hbefore : ∀ p ∈ vs.zipIdx, next.outcomeAt helpers t p.1 p.2 = run.outcomeAt helpers t p.1 p.2 :=
    fun p hp => h.outcomeAt_eq hprefix hage hp
  have hlast : next.outcomeAt helpers t v vs.length = run.made helpers t v := by
    rw [h.made_eq]
    refine outcomeAt_congr ?_ hage v
    rw [hvalues, List.take_append_of_le_length (Nat.le_of_eq h.length_values.symm)]
  refine ⟨⟨?_, ?_, ?_⟩, hprefix, hage⟩
  · rw [List.zipIdx_append, List.map_append, List.map_congr_left fun p hp => by rw [hbefore p hp], ← h.values, hvalues]
    simp [hlast]
  · rw [List.zipIdx_append, List.filterMap_append, List.filterMap_congr fun p hp => by rw [hbefore p hp], ← h.warnings,
      hwarnings]
    cases hw : v.warning? (run.made helpers t v) <;> simp [hlast, hw]
  · rw [hdone, h.done, List.length_append, List.length_singleton]

theorem tells_nil {run : VariableRun} (hvalues : run.values = []) (hwarnings : run.warnings = [])
    (hdone : run.done = 0) : run.Tells helpers t [] := ⟨hvalues, hwarnings, hdone⟩

/-- Variables of new names are done one after the other, by induction on them. -/
theorem Tells.plainFrom {vs before : List CompiledVariable} {run plain : VariableRun} (h : run.Tells helpers t before)
    (hn : ((before ++ vs).map CompiledVariable.name).Nodup)
    (hplain : plainFrom helpers t vs run = (plain, .ok ())) :
    plain.Tells helpers t (before ++ vs) ∧ run.values <+: plain.values ∧ plain.age = run.age := by
  induction vs generalizing before run with
  | nil =>
    obtain rfl : run = plain := congrArg Prod.fst hplain
    exact ⟨by simpa using h, List.prefix_refl _, rfl⟩
  | cons v rest ih =>
    rw [VariableRun.plainFrom] at hplain
    rw [List.append_cons] at hn ⊢
    split at hplain
    · next next he =>
      have hv : v.name ∉ before.map CompiledVariable.name := by
        rw [List.append_assoc, List.map_append] at hn
        exact fun hm => (List.nodup_append.mp hn).2.2 _ hm _ List.mem_cons_self rfl
      obtain ⟨htells, hprefix, hage⟩ := h.evaluate hv he
      obtain ⟨hall, hmore, hsame⟩ := ih htells hn hplain
      exact ⟨hall, hprefix.trans hmore, hsame.trans hage⟩
    · cases (Prod.mk.inj hplain).2

/-- A run that comes to its end comes to the end of its first variables. -/
theorem exists_plainFrom_of_append {before rest : List CompiledVariable} {start final : VariableRun}
    (h : plainFrom helpers t (before ++ rest) start = (final, .ok ())) :
    ∃ middle, plainFrom helpers t before start = (middle, .ok ()) ∧
      plainFrom helpers t rest middle = (final, .ok ()) := by
  induction before generalizing start with
  | nil => exact ⟨start, rfl, h⟩
  | cons v before ih =>
    rw [List.cons_append, VariableRun.plainFrom] at h
    rw [VariableRun.plainFrom]
    generalize (start.evaluate helpers t v fun _ run => run) = step at h ⊢
    obtain ⟨next, outcome⟩ := step
    cases outcome with
    | ok u => exact ih h
    | error f => cases (Prod.mk.inj h).2

/-- What is done first stays when the run goes on. -/
theorem exists_plainFrom_before {before rest : List CompiledVariable} {start final : VariableRun}
    (hstart : start.Tells helpers t []) (hn : ((before ++ rest).map CompiledVariable.name).Nodup)
    (h : plainFrom helpers t (before ++ rest) start = (final, .ok ())) :
    ∃ plain, plainFrom helpers t before start = (plain, .ok ()) ∧ plain.Tells helpers t before ∧
      plain.values = final.values.take before.length ∧ plain.age = final.age := by
  obtain ⟨plain, hbefore, hrest⟩ := exists_plainFrom_of_append h
  have hn' : (before.map CompiledVariable.name).Nodup := by
    rw [List.map_append] at hn
    exact (List.nodup_append.mp hn).1
  obtain ⟨htells, -, -⟩ := hstart.plainFrom hn' hbefore
  obtain ⟨-, hprefix, hage⟩ := htells.plainFrom hn hrest
  refine ⟨plain, hbefore, htells, ?_, hage.symm⟩
  rw [← List.nil_append before, ← htells.length_values]
  exact List.prefix_iff_eq_take.mp hprefix

/-- What a variable is made of when the run gets to it is what it comes to in the whole run. -/
theorem made_eq_outcomeAt {before after : List CompiledVariable} {v : CompiledVariable}
    {start middle final : VariableRun} (hstart : start.Tells helpers t [])
    (hn : ((before ++ v :: after).map CompiledVariable.name).Nodup)
    (hbefore : plainFrom helpers t before start = (middle, .ok ()))
    (h : plainFrom helpers t (before ++ v :: after) start = (final, .ok ())) :
    middle.made helpers t v = final.outcomeAt helpers t v before.length := by
  obtain ⟨plain, hplain, htells, hvalues, hage⟩ := exists_plainFrom_before hstart hn h
  obtain rfl : middle = plain := congrArg Prod.fst (hbefore.symm.trans hplain)
  rw [htells.made_eq]
  refine outcomeAt_congr ?_ hage v
  rw [hvalues, List.take_take, Nat.min_self]

/-! ## Kept values -/

/-- Every value kept for a variable of the template is the one that computing the variable anew makes, where the run
gets to it. A kept value in which an earlier run made an undefined number is another one. -/
def Correct (helpers : Registry) (c : CompiledTemplate) (t : Transcript) (kept : VariableCache) : Prop :=
  ∀ fingerprint before v after plain, t.fingerprint = .ok fingerprint → c.declarations = before ++ v :: after →
    v.declaration.cached = true → plainFrom helpers t before { age := kept.age } = (plain, .ok ()) →
      ∀ value, (⟨c.id, c.version, v.name, fingerprint⟩, value) ∈ kept.entries → plain.made helpers t v = .ok value

theorem correct_of_entries_eq_nil {c : CompiledTemplate} {kept : VariableCache} (h : kept.entries = []) :
    Correct helpers c t kept := by
  intro _ _ _ _ _ _ _ _ _ _ hm
  rw [h] at hm
  cases hm

/-- A value that stood in the cache under its key, or that is made anew of the variable of its key. -/
def FoundOrMade (helpers : Registry) (c : CompiledTemplate) (t : Transcript) (kept : VariableCache)
    (fingerprint : String) (key : VariableKey) (value : Value) : Prop :=
  (key, value) ∈ kept.entries ∨
    ∃ before v after plain, c.declarations = before ++ v :: after ∧ v.declaration.cached = true ∧
      key = ⟨c.id, c.version, v.name, fingerprint⟩ ∧
      plainFrom helpers t before { age := kept.age } = (plain, .ok ()) ∧ plain.made helpers t v = .ok value

/-- What is kept for a variable, from before or from this run, is what the reference makes of it. -/
theorem Correct.foundOrMade_iff {c : CompiledTemplate} {kept : VariableCache} (hc : Correct helpers c t kept)
    (hn : (c.declarations.map CompiledVariable.name).Nodup) {fingerprint : String}
    (hf : t.fingerprint = .ok fingerprint) {before after : List CompiledVariable} {v : CompiledVariable}
    {plain : VariableRun} (hd : c.declarations = before ++ v :: after) (hv : v.declaration.cached = true)
    (hb : plainFrom helpers t before { age := kept.age } = (plain, .ok ())) (value : Value) :
    FoundOrMade helpers c t kept fingerprint ⟨c.id, c.version, v.name, fingerprint⟩ value ↔
      plain.made helpers t v = .ok value := by
  constructor
  · rintro (hm | ⟨before', v', after', plain', hd', -, hkey, hb', hm⟩)
    · exact hc fingerprint before v after plain hf hd hv hb value hm
    · obtain ⟨rfl, rfl⟩ := split_unique hn hd hd' (congrArg VariableKey.name hkey)
      obtain rfl : plain = plain' := congrArg Prod.fst (hb.symm.trans hb')
      exact hm
  · intro hm
    exact .inr ⟨before, v, after, plain, hd, hv, rfl, hb, hm⟩

/-- With correct entries or none, a run does what the reference does, and keeps only what variables come to. -/
theorem compute_follows {c : CompiledTemplate} {cache : Option VariableCache} {run : VariableRun}
    (hn : (c.declarations.map CompiledVariable.name).Nodup)
    (hc : ∀ kept ∈ cache, Correct helpers c t.placed kept) (h : compute helpers c t cache = (run, .ok ())) :
    ∃ plain, plainFrom helpers t.placed c.declarations { age := cache.elim 0 VariableCache.age } = (plain, .ok ()) ∧
      run.Agrees plain ∧
      ∀ left, run.cache = some left → ∃ kept, cache = some kept ∧
        ∀ fingerprint, t.placed.fingerprint = .ok fingerprint →
          left.Holds (FoundOrMade helpers c t.placed kept fingerprint) := by
  cases cache with
  | none =>
    have hcache := compute_none_cache helpers c t
    rw [h] at hcache
    have hplain : plainFrom helpers t.placed c.declarations {} = (run, .ok ()) := by
      unfold compute at h
      dsimp only [Option.elim_none] at h
      split at h
      · next hempty =>
        rw [List.isEmpty_iff.mp hempty]
        exact h
      · rwa [computeFrom_eq_plainFrom _ _ _ _ _ rfl] at h
    -- without a cache the run is the reference
    refine ⟨run, hplain, ⟨rfl, rfl, rfl, rfl⟩, fun left hleft => ?_⟩
    exact absurd (hcache.symm.trans hleft) (Option.some_ne_none left).symm
  | some kept =>
    have hstart : Agrees { cache := some kept, age := kept.age } { age := kept.age } := ⟨rfl, rfl, rfl, rfl⟩
    unfold compute at h
    dsimp only [Option.elim_some] at h ⊢
    split at h
    · next hempty =>
      obtain rfl := (Prod.mk.inj h).1
      rw [List.isEmpty_iff.mp hempty]
      exact ⟨_, rfl, hstart, fun left hleft => ⟨left, hleft, fun _ _ e he => .inl he⟩⟩
    · split at h
      · cases (Prod.mk.inj h).2
      · next fingerprint hf =>
        have hcaches : Caches (FoundOrMade helpers c t.placed kept fingerprint)
            { cache := some kept, age := kept.age } := ⟨kept, rfl, fun e he => .inl he⟩
        have hnone : plainFrom helpers t.placed [] { age := kept.age } = ({ age := kept.age }, .ok ()) := rfl
        obtain ⟨hsame, hagrees, left, hleft, hholds⟩ :=
          computeFrom_agrees (fun before v after plain => (hc kept rfl).foundOrMade_iff hn hf)
            (List.prefix_refl _) hnone hstart hcaches
        rw [h] at hsame hagrees hleft
        refine ⟨_, Prod.ext rfl hsame.symm, hagrees rfl, fun left' hleft' => ⟨kept, rfl, fun fingerprint' hf' => ?_⟩⟩
        obtain rfl : left = left' := Option.some.inj (hleft.symm.trans hleft')
        obtain rfl : fingerprint = fingerprint' := Except.ok.inj (hf.symm.trans hf')
        exact hholds

/-- Whatever the run left in the cache was there before or is what a variable marked for it came to. -/
def StoresOutcomes (helpers : Registry) (t : Transcript) (c : CompiledTemplate) (cache : Option VariableCache)
    (run : VariableRun) : Prop :=
  ∀ left, run.cache = some left → ∃ kept, cache = some kept ∧ ∀ fingerprint, t.fingerprint = .ok fingerprint →
    left.Holds fun key value => (key, value) ∈ kept.entries ∨
      ∃ p ∈ c.declarations.zipIdx, p.1.declaration.cached = true ∧
        key = ⟨c.id, c.version, p.1.name, fingerprint⟩ ∧ run.outcomeAt helpers t p.1 p.2 = .ok value

/-- What a run over the variables of a template leaves behind: a value for each declared name, in order, each variable
done once, by what it comes to, and nothing in the cache for one that fails. -/
structure InOrder (helpers : Registry) (t : Transcript) (template : Template) (c : CompiledTemplate)
    (cache : Option VariableCache) (run : VariableRun) : Prop where
  names : run.values.map Prod.fst = template.declarations.map fun v => .text v.name
  counted : run.evaluated + run.cacheHits = template.declarations.length
  tells : run.Tells helpers t c.declarations
  stores : run.StoresOutcomes helpers t c cache
  failed : ∀ p ∈ c.declarations.zipIdx, ∀ failure, run.outcomeAt helpers t p.1 p.2 = .error failure →
    ∀ kept left fingerprint value, cache = some kept → run.cache = some left → t.fingerprint = .ok fingerprint →
      (⟨c.id, c.version, p.1.name, fingerprint⟩, value) ∈ left.entries →
        (⟨c.id, c.version, p.1.name, fingerprint⟩, value) ∈ kept.entries

/-- Computing the variables of a template with correct entries or none does each of them once and in order. -/
theorem compute_tells {c : CompiledTemplate} {cache : Option VariableCache} {run : VariableRun}
    (hn : (c.declarations.map CompiledVariable.name).Nodup)
    (hc : ∀ kept ∈ cache, Correct helpers c t.placed kept) (h : compute helpers c t cache = (run, .ok ())) :
    run.Tells helpers t.placed c.declarations ∧ run.StoresOutcomes helpers t.placed c cache := by
  obtain ⟨plain, hplain, hagrees, hkept⟩ := compute_follows hn hc h
  have hnil : Tells helpers t.placed [] { age := cache.elim 0 VariableCache.age } := tells_nil rfl rfl rfl
  have htells := ((hnil.plainFrom hn hplain).1).of_agrees hagrees
  refine ⟨htells, fun left hleft => ?_⟩
  obtain ⟨kept, hcache, hholds⟩ := hkept left hleft
  refine ⟨kept, hcache, fun fingerprint hf e he => (hholds fingerprint hf e he).imp_right ?_⟩
  rintro ⟨before, v, after, middle, hd, hv, hkey, hb, hm⟩
  refine ⟨(v, before.length), ?_, hv, hkey, ?_⟩
  · rw [List.mk_mem_zipIdx_iff_getElem?, hd, List.getElem?_append_right (Nat.le_refl _), Nat.sub_self]
    rfl
  · rw [hcache, Option.elim_some, hd] at hplain
    rw [hcache, Option.elim_some] at hnil
    rw [hd] at hn
    rw [← hm, made_eq_outcomeAt hnil hn hb hplain]
    exact outcomeAt_congr (congrArg _ hagrees.values) hagrees.age v

/-- A variable that fails adds nothing to the cache under its key. -/
theorem StoresOutcomes.of_error {c : CompiledTemplate} {kept left : VariableCache} {run : VariableRun}
    (h : run.StoresOutcomes helpers t c (some kept)) (hn : (c.declarations.map CompiledVariable.name).Nodup)
    (hleft : run.cache = some left) {fingerprint : String} (hf : t.fingerprint = .ok fingerprint)
    {p : CompiledVariable × Nat} (hp : p ∈ c.declarations.zipIdx) {failure : Failure}
    (hfailed : run.outcomeAt helpers t p.1 p.2 = .error failure) {value : Value}
    (hm : (⟨c.id, c.version, p.1.name, fingerprint⟩, value) ∈ left.entries) :
    (⟨c.id, c.version, p.1.name, fingerprint⟩, value) ∈ kept.entries := by
  obtain ⟨kept', hcache, hholds⟩ := h left hleft
  obtain rfl : kept = kept' := Option.some.inj hcache
  rcases hholds fingerprint hf _ hm with hm | ⟨q, hq, -, hkey, hmade⟩
  · exact hm
  · have hname : p.1.name = q.1.name := congrArg VariableKey.name hkey
    rw [List.mem_zipIdx_iff_getElem?] at hp hq
    have hplace : p.2 = q.2 := by
      refine (List.getElem?_inj ?_ hn).mp ?_
      · rw [List.length_map]
        exact (List.getElem?_eq_some_iff.mp hp).1
      · rw [List.getElem?_map, List.getElem?_map, hp, hq, Option.map_some, Option.map_some, hname]
    have hsame : p.1 = q.1 := Option.some.inj (hp.symm.trans (hplace ▸ hq))
    rw [hplace, hsame, hmade] at hfailed
    cases hfailed

/-- A run with correct entries leaves correct entries, as long as it has the age of the runs to come. -/
theorem Correct.compute {c : CompiledTemplate} {kept left : VariableCache} {run : VariableRun}
    (hc : Correct helpers c t.placed kept) (hn : (c.declarations.map CompiledVariable.name).Nodup)
    (h : compute helpers c t (some kept) = (run, .ok ())) (hleft : run.cache = some left)
    (hage : left.age = kept.age) : Correct helpers c t.placed left := by
  obtain ⟨-, -, -, hkept⟩ := compute_follows hn (fun kept' hk => Option.some.inj hk ▸ hc) h
  obtain ⟨kept', hcache, hholds⟩ := hkept left hleft
  obtain rfl : kept = kept' := Option.some.inj hcache
  intro fingerprint before v after plain hf hd hv hb value hm
  rw [hage] at hb
  exact (hc.foundOrMade_iff hn hf hd hv hb value).mp (hholds fingerprint hf _ hm)

/-- Two runs in which the same variables come first, with caches of the same age, do the same for these. -/
theorem compute_shared {c c' : CompiledTemplate} {cache cache' : Option VariableCache} {run run' : VariableRun}
    (hn : (c.declarations.map CompiledVariable.name).Nodup) (hn' : (c'.declarations.map CompiledVariable.name).Nodup)
    (hc : ∀ kept ∈ cache, Correct helpers c t.placed kept) (hc' : ∀ kept ∈ cache', Correct helpers c' t.placed kept)
    (h : compute helpers c t cache = (run, .ok ())) (h' : compute helpers c' t cache' = (run', .ok ()))
    (hage : cache'.elim 0 VariableCache.age = cache.elim 0 VariableCache.age)
    {before rest rest' : List CompiledVariable} (hd : c.declarations = before ++ rest)
    (hd' : c'.declarations = before ++ rest') :
    run'.values.take before.length = run.values.take before.length ∧
      ∀ place ≤ before.length, ∀ v,
        run'.outcomeAt helpers t.placed v place = run.outcomeAt helpers t.placed v place := by
  obtain ⟨plain, hplain, hagrees, -⟩ := compute_follows hn hc h
  obtain ⟨plain', hplain', hagrees', -⟩ := compute_follows hn' hc' h'
  have hnil : Tells helpers t.placed [] { age := cache.elim 0 VariableCache.age } := tells_nil rfl rfl rfl
  rw [hd] at hn hplain
  rw [hd', hage] at hplain'
  rw [hd'] at hn'
  obtain ⟨middle, hmiddle, -, hvalues, hsame⟩ := exists_plainFrom_before hnil hn hplain
  obtain ⟨middle', hmiddle', -, hvalues', hsame'⟩ := exists_plainFrom_before hnil hn' hplain'
  obtain rfl : middle = middle' := congrArg Prod.fst (hmiddle.symm.trans hmiddle')
  have htake : run'.values.take before.length = run.values.take before.length := by
    rw [hagrees.values, hagrees'.values, ← hvalues, ← hvalues']
  refine ⟨htake, fun place hplace v => outcomeAt_congr ?_ ?_ v⟩
  · simpa [List.take_take, Nat.min_eq_left hplace] using congrArg (List.take place) htake
  · rw [hagrees.age, hagrees'.age, ← hsame, ← hsame']

end VariableRun

/-! ## Valid templates -/

namespace CompiledTemplate

open VariableRun

variable {helpers : Registry} {t : Template} {c : CompiledTemplate}

theorem inOrder_of_compute (h : Template.analyze helpers t = .ok c) (hv : c.isValid) {transcript : Transcript}
    {cache : Option VariableCache} (hc : ∀ kept ∈ cache, Correct helpers c transcript.placed kept) {run : VariableRun}
    (hrun : compute helpers c transcript cache = (run, .ok ())) :
    run.InOrder helpers transcript.placed t c cache := by
  have hnames := map_name_declarations h hv
  have hn : (c.declarations.map CompiledVariable.name).Nodup := names_nodup h
  have hlength := congrArg List.length hnames
  rw [List.length_map, List.length_map] at hlength
  obtain ⟨htells, hstores⟩ := compute_tells hn hc hrun
  refine ⟨?_, htells.done.trans hlength, htells, hstores, ?_⟩
  · rw [htells.map_fst_values]
    simpa [Function.comp_def] using congrArg (List.map Value.text) hnames
  · rintro p hp failure hfailed kept left fingerprint value rfl hleft hf hm
    exact hstores.of_error hn hleft hf hp hfailed hm

/-- The variables of a valid template are computed in order and in isolation, from a cache of correct entries or
without one. Any other valid template that begins with the same variables, whatever its other variables and its rules
are, does the same for these: they have the same values and the same outcomes, and so add the same warnings. Its cache
may be another one of the same age, which tells where undefined numbers were made. -/
theorem variables_isolated (h : Template.analyze helpers t = .ok c) (hv : c.isValid) {transcript : Transcript}
    {cache : Option VariableCache} (hc : ∀ kept ∈ cache, Correct helpers c transcript.placed kept) {run : VariableRun}
    (hrun : compute helpers c transcript cache = (run, .ok ())) :
    run.InOrder helpers transcript.placed t c cache ∧
      ∀ (t' : Template) (c' : CompiledTemplate) (cache' : Option VariableCache) (run' : VariableRun),
        Template.analyze helpers t' = .ok c' → c'.isValid →
        (∀ kept ∈ cache', Correct helpers c' transcript.placed kept) →
        cache'.elim 0 VariableCache.age = cache.elim 0 VariableCache.age →
        compute helpers c' transcript cache' = (run', .ok ()) →
        ∀ before rest rest', t.declarations = before ++ rest → t'.declarations = before ++ rest' →
          c'.declarations.take before.length = c.declarations.take before.length ∧
            run'.values.take before.length = run.values.take before.length ∧
            ∀ place < before.length, ∀ v,
              run'.outcomeAt helpers transcript.placed v place = run.outcomeAt helpers transcript.placed v place := by
  refine ⟨inOrder_of_compute h hv hc hrun, ?_⟩
  intro t' c' cache' run' h' hv' hc' hage hrun' before rest rest' hd hd'
  have hparts := declarations_eq h hv
  have hparts' := declarations_eq h' hv'
  rw [hd, List.zipIdx_append, List.map_append] at hparts
  rw [hd', List.zipIdx_append, List.map_append] at hparts'
  obtain ⟨hvalues, houtcomes⟩ :=
    compute_shared (names_nodup h) (names_nodup h') hc hc' hrun hrun' hage hparts hparts'
  rw [List.length_map, List.length_zipIdx] at hvalues houtcomes
  refine ⟨?_, hvalues, fun place hplace => houtcomes place (Nat.le_of_lt hplace)⟩
  rw [hparts, hparts', List.take_left' (by simp), List.take_left' (by simp)]

/-- A template with a variable that is kept, one that fails, and a last one. -/
def unsteady (last condition : String) : Template where
  id := "unsteady"
  rules := [Verdict.plainRule "only" condition "base" 1]
  declarations := [{ name := "base", expression := .text "audioData.totalWords", cached := true },
    { name := "broken", expression := .text "variables.base / 0", cached := true },
    { name := "last", expression := .text last }]
  name := .null
  version := none
  metadata := []

/-- A named transcript of one word. -/
def hum : Transcript := { murmur with id := some "hum" }

/-- The second run finds the kept value of an earlier one; a run over a template that ends otherwise, without a cache,
does the same for the first two variables. -/
theorem unsteady_isolated :
    ∃ c c' left run run',
      Template.analyze .standard (unsteady "variables.base + 1" "true") = .ok c ∧ c.isValid = true ∧
      Template.analyze .standard (unsteady "variables.broken" "false") = .ok c' ∧ c'.isValid = true ∧
      (compute .standard c hum (some { size := 4 })).1.cache = some left ∧ Correct .standard c hum.placed left ∧
      compute .standard c hum (some left) = (run, .ok ()) ∧ compute .standard c' hum none = (run', .ok ()) ∧
      run.cacheHits = 1 ∧ run.warnings.length = 1 ∧
      run.InOrder .standard hum.placed (unsteady "variables.base + 1" "true") c (some left) ∧
      run'.values.take 2 = run.values.take 2 := by
  obtain ⟨c, hc, hgood⟩ : ∃ c, Template.analyze .standard (unsteady "variables.base + 1" "true") = .ok c ∧
      (c.isValid && (compute .standard c hum (some { size := 4 })).2.isOk &&
        (compute .standard c hum (some { size := 4 })).1.cache.any fun left =>
          left.age == 0 && (compute .standard c hum (some left)).2.isOk &&
            (compute .standard c hum (some left)).1.cacheHits == 1 &&
            (compute .standard c hum (some left)).1.warnings.length == 1) = true :=
    exists_ok_of_any (by decide +kernel)
  obtain ⟨c', hc', hgood'⟩ : ∃ c', Template.analyze .standard (unsteady "variables.broken" "false") = .ok c' ∧
      (c'.isValid && (compute .standard c' hum none).2.isOk) = true := exists_ok_of_any (by decide +kernel)
  simp only [Bool.and_eq_true, Option.any_eq_true, beq_iff_eq] at hgood hgood'
  obtain ⟨⟨hv, hfirst⟩, left, hleft, ⟨⟨hage, hrun⟩, hhits⟩, hwarnings⟩ := hgood
  obtain ⟨hv', hrun'⟩ := hgood'
  obtain ⟨u, hfirst⟩ := exists_ok_of_isOk hfirst
  obtain ⟨u, hrun⟩ := exists_ok_of_isOk hrun
  obtain ⟨u, hrun'⟩ := exists_ok_of_isOk hrun'
  have hempty : Correct .standard c hum.placed { size := 4 } := correct_of_entries_eq_nil rfl
  have hcorrect : Correct .standard c hum.placed left :=
    hempty.compute (names_nodup hc) (Prod.ext rfl hfirst) hleft hage
  have hkept : ∀ kept ∈ some left, Correct .standard c hum.placed kept := by
    simpa using hcorrect
  have hnone : ∀ kept ∈ (none : Option VariableCache), Correct .standard c' hum.placed kept := by
    simp
  obtain ⟨horder, hshared⟩ := variables_isolated hc hv hkept (Prod.ext rfl hrun)
  have hsame := hshared _ c' none _ hc' hv' hnone hage.symm (Prod.ext rfl hrun')
    ((unsteady "" "").declarations.take 2) _ _ rfl rfl
  exact ⟨c, c', left, _, _, hc, hv, hc', hv', hleft, hcorrect, Prod.ext rfl hrun, Prod.ext rfl hrun', hhits, hwarnings,
    horder, hsame.2.1⟩

end CompiledTemplate
end CaptionAnimation
