import CaptionAnimation.Helper.Standard
import CaptionAnimation.Proofs.Selection.Run
import CaptionAnimation.Proofs.Selection.Variables
import CaptionAnimation.Selection.Session

/-! # Caches make no difference

Every kept template is what analysing it gives, and every kept value is what its variable has in the reference, as
long as one key stands for one template and one fingerprint for one transcript. A session then applies templates as a
new session does that keeps nothing, whatever calls came before. The one thing that a cache would let through is the
identity of an undefined number that a variable made: no kept value may hold one. -/
namespace CaptionAnimation

namespace Session

/-! ## Applying without a session -/

/-- Applies a compiled template, keeping nothing. -/
def plainCompiled (helpers : Registry) (c : CompiledTemplate) (t : Transcript) (o : Options) :
    Except Fault Application :=
  let (run, outcome) := VariableRun.compute helpers c t none
  match outcome, o.filterRules c.rules with
  | .error f, _ | .ok (), .error f => .error f
  | .ok (), .ok rules => (Course.run ⟨helpers, t, run.values, rules, o⟩ {} run.warnings).2

/-- Applies a template that has been read, keeping nothing. -/
def plainRead (helpers : Registry) (t : Template) (audio : Value) (o : Options) : Except Fault Application :=
  match Template.analyze helpers t with
  | .error f => .error f
  | .ok c =>
    if !c.isValid then
      .ok (.refused (c.errors.map Issue.message) ["Template " ++ t.id ++ " has validation errors"])
    else
      match Transcript.expect audio with
      | .error f => .error f
      | .ok transcript => plainCompiled helpers c transcript.placed o

/-- The answer to a template and options, given what applying them gives. -/
def answer (template : TemplateSource) (options : Except Fault (Except Fault Options))
    (applied : Template → Options → Except Fault Application) : Application :=
  let failed (f : Fault) : Application := .refused ["Template application failed: " ++ f.message] []
  match options, template.read with
  | .error f, _ => failed f
  | .ok _, .error f => .refused [(Issue.Cause.unreadable f).message] []
  | .ok (.error f), .ok _ => failed f
  | .ok (.ok o), .ok t =>
    match applied t o with
    | .ok a => a
    | .error f => failed f

/-- Options that are alike and collect selections alike give one result. -/
theorem plainCompiled_congr (helpers : Registry) (c : CompiledTemplate) (t : Transcript) {o o' : Options}
    (h : o.Alike o') (hd : o.debugInfo = o'.debugInfo) : plainCompiled helpers c t o = plainCompiled helpers c t o' := by
  unfold plainCompiled
  rw [h.filterRules_eq]
  dsimp only
  split
  · rfl
  · rfl
  · next rules _ _ =>
    rw [Course.run, Course.run, hd]
    exact Course.runFrom_congr ⟨helpers, t, _, rules, o⟩ h _ _ _ _

/-- Options that are alike give one result, but for the selections. -/
theorem plainCompiled_alike (helpers : Registry) (c : CompiledTemplate) (t : Transcript) {o o' : Options}
    (h : o.Alike o') :
    (plainCompiled helpers c t o).map Application.withoutSelections =
      (plainCompiled helpers c t o').map Application.withoutSelections := by
  unfold plainCompiled
  rw [h.filterRules_eq]
  dsimp only
  split
  · rfl
  · rfl
  · next rules _ _ =>
    rw [Course.run, Course.run, ← Course.runFrom_withoutSelections, ← Course.runFrom_withoutSelections]
    exact Course.runFrom_congr ⟨helpers, t, _, rules, o⟩ h _ _ _ _

theorem plainRead_congr (helpers : Registry) (t : Template) (audio : Value) {o o' : Options} (h : o.Alike o')
    (hd : o.debugInfo = o'.debugInfo) : plainRead helpers t audio o = plainRead helpers t audio o' := by
  simp only [plainRead, fun c t => plainCompiled_congr helpers c t h hd]

theorem plainRead_alike (helpers : Registry) (t : Template) (audio : Value) {o o' : Options} (h : o.Alike o') :
    (plainRead helpers t audio o).map Application.withoutSelections =
      (plainRead helpers t audio o').map Application.withoutSelections := by
  unfold plainRead
  split
  · rfl
  · split
    · rfl
    · split
      · rfl
      · exact plainCompiled_alike helpers _ _ h

/-- The answer of a session to a template or a map, by what applying gives. -/
theorem apply_snd (s : Session) {template : TemplateSource} (ht : template.stranger? = none) (audio : Value)
    (options : OptionsSource) :
    (s.apply template audio options).2 =
      answer template (options.read s.settings) fun t o => (s.applyRead t audio o).2 := by
  unfold apply answer
  rw [ht]
  cases options.read s.settings with
  | error f => rfl
  | ok outcome =>
    cases template.read with
    | error f => cases outcome <;> rfl
    | ok t =>
      cases outcome with
      | error f => rfl
      | ok o =>
        dsimp only
        generalize s.applyRead t audio o = applied
        obtain ⟨s', result⟩ := applied
        cases result <;> rfl

/-! ## Calls -/

/-- A call on a session. -/
inductive Call where
  | apply (template : TemplateSource) (audio : Value) (options : OptionsSource)
  | compile (template : Template) (useCache : Bool)
  | validate (template : TemplateSource)
  | select (template : CompiledTemplate) (context : Context) (options : Options)
  | clear

/-- The session after a call. -/
def after (s : Session) : Call → Session
  | .apply template audio options => (s.apply template audio options).1
  | .compile template useCache => (s.compiled template useCache).1
  | .validate _ => s
  | .select template context options => (s.selectWord template context options).1
  | .clear => s.clear

/-- The session after several calls. -/
def afterAll (s : Session) (calls : List Call) : Session := calls.foldl after s

/-- The template of a call. -/
def Call.template? : Call → Option Template
  | .apply template _ _ => template.read.toOption
  | .compile template _ => some template
  | _ => none

/-- The transcript of a call, as the session takes it in. -/
def Call.transcript? : Call → Option Transcript
  | .apply _ audio _ => (Transcript.expect audio).toOption.map Transcript.placed
  | _ => none

/-- One id and version stand for one template, one fingerprint for one transcript, and every transcript has one. -/
structure Consistent (calls : List Call) : Prop where
  templates : ∀ a ∈ calls, ∀ b ∈ calls, ∀ t ∈ a.template?, ∀ u ∈ b.template?, t.key = u.key → t = u
  transcripts : ∀ a ∈ calls, ∀ b ∈ calls, ∀ t ∈ a.transcript?, ∀ u ∈ b.transcript?,
    t.fingerprint = u.fingerprint → t = u
  fingerprints : ∀ a ∈ calls, ∀ t ∈ a.transcript?, ∃ fingerprint, t.fingerprint = .ok fingerprint

theorem Consistent.mono {calls more : List Call} (h : Consistent more) (hs : calls ⊆ more) : Consistent calls :=
  ⟨fun a ha b hb => h.templates a (hs ha) b (hs hb), fun a ha b hb => h.transcripts a (hs ha) b (hs hb),
    fun a ha => h.fingerprints a (hs ha)⟩

/-- A call that is made again and again is consistent. -/
theorem consistent_of_forall_eq {call : Call} {calls : List Call} (h : ∀ a ∈ calls, a = call)
    (hf : ∀ t ∈ call.transcript?, ∃ fingerprint, t.fingerprint = .ok fingerprint) : Consistent calls where
  templates := by
    intro a ha b hb t ht u hu _
    obtain rfl : a = b := (h a ha).trans (h b hb).symm
    exact Option.mem_unique ht hu
  transcripts := by
    intro a ha b hb t ht u hu _
    obtain rfl : a = b := (h a ha).trans (h b hb).symm
    exact Option.mem_unique ht hu
  fingerprints := fun a ha => h a ha ▸ hf

/-- A call computes the variables of a compiled template over a transcript with caching. -/
def Call.Computes (settings : Settings) (helpers : Registry) (c : CompiledTemplate) (t : Transcript) : Call → Prop
  | .apply template audio options => ∃ source o transcript, template.read = .ok source ∧
      options.read settings = .ok (.ok o) ∧ o.caching.truthy = true ∧ Template.analyze helpers source = .ok c ∧
      c.isValid = true ∧ Transcript.expect audio = .ok transcript ∧ t = transcript.placed
  | _ => False

theorem Call.Computes.parts {settings : Settings} {helpers : Registry} {c : CompiledTemplate} {t : Transcript}
    {call : Call} (h : call.Computes settings helpers c t) :
    (∃ source ∈ call.template?, Template.analyze helpers source = .ok c) ∧ t ∈ call.transcript? := by
  cases call with
  | apply template audio options =>
    obtain ⟨source, o, transcript, hs, -, -, ha, -, ht, rfl⟩ := h
    exact ⟨⟨source, by simp [Call.template?, hs, Except.toOption], ha⟩,
      by simp [Call.transcript?, ht, Except.toOption]⟩
  | _ => cases h

/-- No value that a call keeps holds an undefined number made outside the transcript. -/
def Call.KeepsDefined (settings : Settings) (helpers : Registry) (call : Call) : Prop :=
  ∀ c t, call.Computes settings helpers c t → ∀ name value, VariableRun.Keeps helpers c t name value →
    value.holdsMade = false

/-! ## What is kept -/

/-- A kept template is the one that a template of the calls compiles to. -/
def KeptTemplate (helpers : Registry) (calls : List Call) (key : String × Option String) (c : CompiledTemplate) : Prop :=
  ∃ call ∈ calls, ∃ t ∈ call.template?, t.key = key ∧ Template.analyze helpers t = .ok c

/-- A kept value is the one that a variable has in the reference, for a template and a transcript of the calls. -/
def KeptValue (settings : Settings) (helpers : Registry) (calls : List Call) (key : VariableKey) (value : Value) : Prop :=
  ∃ call ∈ calls, ∃ c t, call.Computes settings helpers c t ∧ c.id = key.template ∧ c.version = key.version ∧
    t.fingerprint = .ok key.fingerprint ∧ VariableRun.Keeps helpers c t key.name value

/-- A session with its settings and helpers, in whose caches everything comes from the calls. -/
structure Sound (settings : Settings) (helpers : Registry) (calls : List Call) (s : Session) : Prop where
  settings_eq : s.settings = settings
  helpers_eq : s.helpers = helpers
  templates : s.templates.Holds (KeptTemplate helpers calls)
  values : s.values.Holds (KeptValue settings helpers calls)

variable {settings : Settings} {helpers : Registry} {calls : List Call} {s : Session}

theorem Sound.mono {more : List Call} (h : s.Sound settings helpers calls) (hs : calls ⊆ more) :
    s.Sound settings helpers more where
  settings_eq := h.settings_eq
  helpers_eq := h.helpers_eq
  templates := fun e he =>
    let ⟨call, hc, rest⟩ := h.templates e he
    ⟨call, hs hc, rest⟩
  values := fun e he =>
    let ⟨call, hc, rest⟩ := h.values e he
    ⟨call, hs hc, rest⟩

/-- A new session keeps nothing. -/
theorem sound_new {templateCacheSize variableCacheSize : Option Int}
    (h : Session.new settings helpers templateCacheSize variableCacheSize = .ok s) (calls : List Call) :
    s.Sound settings helpers calls := by
  unfold Session.new at h
  obtain ⟨templates, ht, h⟩ := bind_eq_ok_iff.mp h
  obtain ⟨values, hv, h⟩ := bind_eq_ok_iff.mp h
  cases h
  exact ⟨rfl, rfl, Recent.holds_of_ofSize ht, Recent.holds_of_ofSize hv⟩

theorem Sound.age_eq (h : s.Sound settings helpers calls) (hk : ∀ call ∈ calls, call.KeepsDefined settings helpers) :
    s.values.age = 0 := by
  unfold VariableCache.age
  rw [if_neg]
  simp only [List.any_eq_true, not_exists, not_and, Bool.not_eq_true]
  intro e he
  obtain ⟨call, hc, c, t, hcomputes, -, -, -, hkeeps⟩ := h.values e he
  exact hk call hc c t hcomputes e.1.name e.2 hkeeps

/-- Compiling gives what analysing gives, whether it was kept or not. -/
theorem Sound.compiled (h : s.Sound settings helpers calls) (hc : Consistent calls) {call : Call} (hcall : call ∈ calls)
    {t : Template} (ht : t ∈ call.template?) (useCache : Bool) :
    (s.compiled t useCache).2 = Template.analyze helpers t ∧ (s.compiled t useCache).1.Sound settings helpers calls ∧
      (s.compiled t useCache).1.values = s.values := by
  obtain rfl := h.helpers_eq
  unfold Session.compiled
  split
  · exact ⟨rfl, h, rfl⟩
  · have hleft := h.templates.find t.key
    rcases hf : s.templates.find t.key with ⟨_ | found, left⟩
    · rw [hf] at hleft
      cases ha : Template.analyze s.helpers t with
      | error f => exact ⟨rfl, ⟨h.settings_eq, rfl, hleft, h.values⟩, rfl⟩
      | ok c => exact ⟨rfl, ⟨h.settings_eq, rfl, hleft.set ⟨call, hcall, t, ht, rfl, ha⟩, h.values⟩, rfl⟩
    · rw [hf] at hleft
      obtain ⟨other, hother, u, hu, hkey, ha⟩ := h.templates.find_some (congrArg Prod.fst hf)
      obtain rfl := hc.templates other hother call hcall u hu t ht hkey
      exact ⟨ha.symm, ⟨h.settings_eq, rfl, hleft, h.values⟩, rfl⟩

/-- What is kept for the template and transcript of a call is what the reference keeps for them. -/
theorem keptValue_iff (hc : Consistent calls) {call : Call} (hcall : call ∈ calls) {c : CompiledTemplate}
    {t : Transcript} (h : call.Computes settings helpers c t) {fingerprint : String}
    (hf : t.fingerprint = .ok fingerprint) (name : String) (value : Value) :
    KeptValue settings helpers calls ⟨c.id, c.version, name, fingerprint⟩ value ↔
      VariableRun.Keeps helpers c t name value := by
  constructor
  · rintro ⟨other, hother, c', t', h', hid, hversion, hf', hkeeps⟩
    obtain ⟨⟨u, hu, hau⟩, ht⟩ := h.parts
    obtain ⟨⟨u', hu', hau'⟩, ht'⟩ := h'.parts
    obtain ⟨hiu, hvu, -⟩ := Template.analyze_eq_ok hau
    obtain ⟨hiu', hvu', -⟩ := Template.analyze_eq_ok hau'
    have hkey : u'.key = u.key := by
      simp only [Template.key, ← hiu, ← hvu, ← hiu', ← hvu']
      rw [hid, hversion]
    obtain rfl := hc.templates other hother call hcall u' hu' u hu hkey
    obtain rfl := hc.transcripts other hother call hcall t' ht' t ht (hf'.trans hf.symm)
    obtain rfl : c' = c := Except.ok.inj (hau'.symm.trans hau)
    exact hkeeps
  · intro hkeeps
    exact ⟨call, hcall, c, t, h, rfl, rfl, hf, hkeeps⟩

theorem placed_of_mem_transcript? {call : Call} {t : Transcript} (ht : t ∈ call.transcript?) : t.placed = t := by
  cases call with
  | apply template audio options =>
    obtain ⟨transcript, -, rfl⟩ := Option.map_eq_some_iff.mp ht
    exact transcript.placed_placed
  | _ => cases ht

/-- A sound session computes variables as the reference does, with or without its cache, and keeps its cache sound. -/
theorem Sound.compute (h : s.Sound settings helpers calls) (hc : Consistent calls) (hage : s.values.age = 0)
    {call : Call} (hcall : call ∈ calls) {source : Template} {c : CompiledTemplate}
    (ha : Template.analyze helpers source = .ok c) {t : Transcript} (ht : t ∈ call.transcript?) {caching : Bool}
    (hcomputes : caching = true → call.Computes settings helpers c t) {run : VariableRun} {outcome : Except Fault Unit}
    (hr : VariableRun.compute helpers c t (if caching then some s.values else none) = (run, outcome)) :
    outcome = (VariableRun.compute helpers c t none).2 ∧
      (outcome = .ok () → run.Agrees (VariableRun.compute helpers c t none).1) ∧
      (run.cache.getD s.values).Holds (KeptValue settings helpers calls) := by
  cases caching with
  | false =>
    have hnone := VariableRun.compute_none_cache helpers c t
    rw [if_neg Bool.false_ne_true] at hr
    rw [hr] at hnone ⊢
    rw [show run.cache = none from hnone]
    exact ⟨rfl, fun _ => ⟨rfl, rfl, rfl, rfl⟩, h.values⟩
  | true =>
    obtain ⟨fingerprint, hf⟩ := hc.fingerprints call hcall t ht
    have hplaced := placed_of_mem_transcript? ht
    have hkey := keptValue_iff hc hcall (hcomputes rfl) hf
    obtain ⟨hsame, hagrees, cache, hcache, hholds⟩ := VariableRun.compute_agrees (hplaced.symm ▸ hf)
      (CompiledTemplate.names_nodup ha) (hplaced.symm ▸ hkey) h.values hage
    rw [if_pos rfl] at hr
    rw [hr] at hsame hagrees hcache
    rw [show run.cache = some cache from hcache]
    exact ⟨hsame, hagrees, hholds⟩

/-- Applying a compiled template in a sound session gives what applying it without one gives. -/
theorem Sound.applyCompiled (h : s.Sound settings helpers calls) (hc : Consistent calls) (hage : s.values.age = 0)
    {call : Call} (hcall : call ∈ calls) {source : Template} {c : CompiledTemplate}
    (ha : Template.analyze helpers source = .ok c) {t : Transcript} (ht : t ∈ call.transcript?) {o : Options}
    (hcomputes : o.caching.truthy = true → call.Computes settings helpers c t) :
    (s.applyCompiled c t o).2 = plainCompiled helpers c t o ∧
      (s.applyCompiled c t o).1.Sound settings helpers calls := by
  obtain rfl := h.helpers_eq
  unfold Session.applyCompiled plainCompiled
  dsimp only
  rcases hr : VariableRun.compute s.helpers c t (if o.caching.truthy then some s.values else none) with ⟨run, outcome⟩
  obtain ⟨hsame, hagrees, hvalues⟩ := h.compute hc hage hcall ha ht hcomputes hr
  rcases hr' : VariableRun.compute s.helpers c t none with ⟨plain, outcome'⟩
  rw [hr'] at hsame hagrees
  obtain rfl : outcome = outcome' := hsame
  cases outcome with
  | error f => exact ⟨rfl, h.settings_eq, rfl, h.templates, hvalues⟩
  | ok u =>
    have hrun := hagrees rfl
    cases o.filterRules c.rules with
    | error f => exact ⟨rfl, h.settings_eq, rfl, h.templates, hvalues⟩
    | ok rules =>
      refine ⟨?_, h.settings_eq, rfl, h.templates, hvalues⟩
      rw [← hrun.values, ← hrun.warnings]
      exact Course.run_congr _ _ _ _

/-- Applying a template in a sound session gives what applying it without one gives. -/
theorem Sound.applyRead (h : s.Sound settings helpers calls) (hc : Consistent calls) (hage : s.values.age = 0)
    {template : TemplateSource} {audio : Value} {options : OptionsSource}
    (hcall : .apply template audio options ∈ calls) {t : Template} (ht : template.read = .ok t) {o : Options}
    (ho : options.read settings = .ok (.ok o)) :
    (s.applyRead t audio o).2 = plainRead helpers t audio o ∧
      (s.applyRead t audio o).1.Sound settings helpers calls := by
  have hmem : t ∈ (Call.apply template audio options).template? := by simp [Call.template?, ht, Except.toOption]
  obtain ⟨hresult, hsound, hvalues⟩ := h.compiled hc hcall hmem o.caching.truthy
  unfold Session.applyRead plainRead
  generalize s.compiled t o.caching.truthy = compiled at hresult hsound hvalues ⊢
  obtain ⟨s', outcome⟩ := compiled
  rw [← hresult]
  cases outcome with
  | error f => exact ⟨rfl, hsound⟩
  | ok c =>
    dsimp only
    cases hv : c.isValid with
    | false => exact ⟨rfl, hsound⟩
    | true =>
      cases ha : Transcript.expect audio with
      | error f => exact ⟨rfl, hsound⟩
      | ok transcript =>
        have htranscript : transcript.placed ∈ (Call.apply template audio options).transcript? := by
          simp [Call.transcript?, ha, Except.toOption]
        exact hsound.applyCompiled hc (hvalues.symm ▸ hage) hcall hresult.symm htranscript fun hcaching =>
          ⟨t, o, transcript, ht, ho, hcaching, hresult.symm, hv, ha, rfl⟩

/-- A call of `apply` keeps a session sound. -/
theorem Sound.apply (h : s.Sound settings helpers calls) (hc : Consistent calls) (hage : s.values.age = 0)
    {template : TemplateSource} {audio : Value} {options : OptionsSource}
    (hcall : .apply template audio options ∈ calls) :
    (s.apply template audio options).1.Sound settings helpers calls := by
  unfold Session.apply
  rw [h.settings_eq]
  cases ho : options.read settings with
  | error f => exact h
  | ok outcome =>
    dsimp only
    split
    · exact h
    · next t o _ ht =>
      have hsound := (h.applyRead hc hage hcall ht ho).2
      generalize s.applyRead t audio o = applied at hsound ⊢
      obtain ⟨s', result⟩ := applied
      cases result <;> exact hsound
    · next data o _ => cases refuseStranger data o <;> exact h
    · exact h

/-- What the answer to an `apply` call in a sound session is. -/
theorem Sound.apply_eq (h : s.Sound settings helpers calls) (hc : Consistent calls) (hage : s.values.age = 0)
    {template : TemplateSource} (ht : template.stranger? = none) {audio : Value} {options : OptionsSource}
    (hcall : .apply template audio options ∈ calls) :
    (s.apply template audio options).2 =
      answer template (options.read settings) fun t o => plainRead helpers t audio o := by
  rw [apply_snd s ht, h.settings_eq]
  unfold answer
  cases ho : options.read settings with
  | error f => rfl
  | ok outcome =>
    cases hr : template.read with
    | error f => rfl
    | ok t =>
      cases outcome with
      | error f => rfl
      | ok o =>
        dsimp only
        rw [(h.applyRead hc hage hcall hr ho).1]

/-- Every call keeps a session sound. -/
theorem Sound.after (h : s.Sound settings helpers calls) (hc : Consistent calls)
    (hk : ∀ call ∈ calls, call.KeepsDefined settings helpers) {call : Call} (hcall : call ∈ calls) :
    (s.after call).Sound settings helpers calls := by
  cases call with
  | apply template audio options => exact h.apply hc (h.age_eq hk) hcall
  | compile t useCache => exact (h.compiled hc hcall (show t ∈ (Call.compile t useCache).template? from rfl) useCache).2.1
  | validate template => exact h
  | clear => exact ⟨h.settings_eq, h.helpers_eq, Recent.holds_clear _, Recent.holds_clear _⟩
  | select c context o =>
    show (s.selectWord c context o).1.Sound settings helpers calls
    unfold Session.selectWord
    cases o.filterRules c.rules with
    | error f => exact h
    | ok rules =>
      dsimp only
      generalize s.ledger.judge { context, helpers := s.helpers } rules = judged
      obtain ⟨l, outcome⟩ := judged
      cases outcome <;> exact ⟨h.settings_eq, h.helpers_eq, h.templates, h.values⟩

/-- Any number of calls keep a session sound. -/
theorem Sound.afterAll (hc : Consistent calls) (hk : ∀ call ∈ calls, call.KeepsDefined settings helpers)
    {part : List Call} (hs : part ⊆ calls) (h : s.Sound settings helpers calls) :
    (s.afterAll part).Sound settings helpers calls := by
  induction part generalizing s with
  | nil => exact h
  | cons call rest ih =>
    obtain ⟨hcall, hrest⟩ := List.cons_subset.mp hs
    exact ih hrest (h.after hc hk hcall)

/-! ## Transparency -/

/-- Options that are alike give answers that differ in the selections at most. -/
theorem answer_alike (helpers : Registry) (template : TemplateSource) (audio : Value) {o o' : Options}
    (h : o.Alike o') :
    (answer template (.ok (.ok o)) fun t o => plainRead helpers t audio o).withoutSelections =
      (answer template (.ok (.ok o')) fun t o => plainRead helpers t audio o).withoutSelections := by
  unfold answer
  cases template.read with
  | error f => rfl
  | ok t =>
    have hread := plainRead_alike helpers t audio h
    dsimp only
    cases hr : plainRead helpers t audio o <;> cases hr' : plainRead helpers t audio o' <;>
      simp_all [Except.map]

/-- Turning caching off in the options does not change the answer. -/
theorem answer_uncached (settings : Settings) (helpers : Registry) (template : TemplateSource) (audio : Value)
    (options : OptionsSource) :
    (answer template (options.uncached.read settings) fun t o => plainRead helpers t audio o) =
      answer template (options.read settings) fun t o => plainRead helpers t audio o := by
  rw [OptionsSource.read_uncached]
  unfold answer
  rcases options.read settings with f | f | o
  · rfl
  · cases template.read <;> rfl
  · cases template.read with
    | error f => rfl
    | ok t =>
      simp only [Except.map]
      rw [plainRead_congr helpers t audio o.alike_uncached rfl]

/-- A new session answers as if there were no session. -/
theorem new_apply {templateCacheSize variableCacheSize : Option Int}
    (h : Session.new settings helpers templateCacheSize variableCacheSize = .ok s) {template : TemplateSource}
    (ht : template.stranger? = none) {audio : Value}
    (hf : ∀ t ∈ Except.toOption (Transcript.expect audio), ∃ fingerprint, t.placed.fingerprint = .ok fingerprint)
    (options : OptionsSource) :
    (s.apply template audio options).2 =
      answer template (options.read settings) fun t o => plainRead helpers t audio o := by
  have hconsistent : Consistent [.apply template audio options] := by
    refine consistent_of_forall_eq (fun a ha => List.mem_singleton.mp ha) fun t ht => ?_
    obtain ⟨transcript, hm, rfl⟩ := Option.map_eq_some_iff.mp ht
    exact hf transcript hm
  have hsound := sound_new h []
  exact (hsound.mono (List.nil_subset _)).apply_eq hconsistent (hsound.age_eq (by simp)) ht List.mem_cons_self

/-- Whatever was called before, a session answers as a new session does that keeps nothing. Nor do other options make a
difference that choose the same words and rules, but for the selections that are asked for. No value that an earlier
call kept may hold an undefined number made outside the transcript. -/
theorem apply_eq_new {templateCacheSize variableCacheSize templateCacheSize' variableCacheSize' : Option Int}
    {start fresh : Session} (hstart : Session.new settings helpers templateCacheSize variableCacheSize = .ok start)
    (hfresh : Session.new settings helpers templateCacheSize' variableCacheSize' = .ok fresh) {before : List Call}
    {template : TemplateSource} {audio : Value} {options : OptionsSource} (ht : template.stranger? = none)
    (hc : Consistent (before ++ [.apply template audio options]))
    (hk : ∀ call ∈ before, call.KeepsDefined settings helpers) :
    ((start.afterAll before).apply template audio options).2 = (fresh.apply template audio options.uncached).2 ∧
      ∀ (other : OptionsSource) (o o' : Options), options.read settings = .ok (.ok o) →
        other.read settings = .ok (.ok o') → o.Alike o' →
        ((start.afterAll before).apply template audio options).2.withoutSelections =
          (fresh.apply template audio other).2.withoutSelections := by
  have hlast : .apply template audio options ∈ before ++ [.apply template audio options] :=
    List.mem_append_right _ List.mem_cons_self
  have hsound := (sound_new hstart before).afterAll (hc.mono (List.subset_append_left _ _)) hk (List.Subset.refl _)
  have hanswer := (hsound.mono (List.subset_append_left _ _)).apply_eq hc (hsound.age_eq hk) ht hlast
  have hfingerprint : ∀ t ∈ Except.toOption (Transcript.expect audio),
      ∃ fingerprint, t.placed.fingerprint = .ok fingerprint := fun t hm =>
    hc.fingerprints _ hlast t.placed (Option.map_eq_some_iff.mpr ⟨t, hm, rfl⟩)
  constructor
  · rw [hanswer, new_apply hfresh ht hfingerprint, answer_uncached]
  · intro other o o' ho ho' h
    rw [hanswer, new_apply hfresh ht hfingerprint, ho, ho']
    exact answer_alike helpers template audio h

/-- A template with a number and a list kept of it, whose one rule looks for the number in the list. -/
def searching (number : String) : Template where
  id := "searching"
  rules := [Verdict.plainRule "found" "contains(variables.kept, variables['num' + 'ber'])" "base" 1]
  declarations := [{ name := "number", expression := .text number },
    { name := "kept", expression := .text "[variables.number]", cached := true }]
  name := .null
  version := none
  metadata := []

/-- A transcript of one word. -/
def oneWord : Transcript where
  segments := [⟨[⟨"hi", ⟨0.25, none⟩, ⟨0.5, none⟩, ⟨1, none⟩, none, []⟩], none, none, none, .null, .null, .null, []⟩]
  metadata := []
  id := some "one"

/-- Applies the template that looks for a number to the one word. -/
def search (number : String) : Call := .apply (.finished (searching number)) (.transcript oneWord) .absent

theorem consistent_search (number : String) : Consistent ([search number] ++ [search number]) := by
  have hcalls : ∀ a ∈ [search number] ++ [search number], a = search number := by simp
  refine consistent_of_forall_eq hcalls fun t ht => ⟨"id:one", ?_⟩
  obtain rfl : oneWord.placed = t := Option.some.inj ht
  rfl

/-- A new session in the standard settings. -/
def started : Session := ⟨{}, .standard, { size := 128 }, { size := 1024 }, {}⟩

theorem keepsDefined_search : (search "1 + 1").KeepsDefined {} .standard := by
  rintro c t ⟨source, o, transcript, hsource, -, -, ha, -, ht, rfl⟩ name value hkeeps
  obtain rfl : searching "1 + 1" = source := Except.ok.inj hsource
  obtain rfl : oneWord = transcript := Except.ok.inj ht
  obtain ⟨c', ha', hall⟩ : ∃ c, Template.analyze .standard (searching "1 + 1") = .ok c ∧
      VariableRun.allKept (!·.holdsMade) .standard oneWord.placed c.declarations {} = true :=
    exists_ok_of_any (by decide +kernel)
  obtain rfl : c = c' := Except.ok.inj (ha.symm.trans ha')
  simpa using hkeeps.of_allKept hall

theorem new_started : Session.new {} .standard = .ok started := rfl

/-- With a number that is defined, the second search finds what a new session finds without caching. -/
theorem search_again :
    Session.new {} .standard = .ok started ∧ Consistent ([search "1 + 1"] ++ [search "1 + 1"]) ∧
      (∀ call ∈ [search "1 + 1"], call.KeepsDefined {} .standard) ∧
      ((started.afterAll [search "1 + 1"]).apply (.finished (searching "1 + 1")) (.transcript oneWord) .absent).2 =
        (started.apply (.finished (searching "1 + 1")) (.transcript oneWord) OptionsSource.absent.uncached).2 := by
  have hk : ∀ call ∈ [search "1 + 1"], call.KeepsDefined {} .standard := by
    simpa using keepsDefined_search
  exact ⟨new_started, consistent_search _, hk,
    (apply_eq_new new_started new_started rfl (consistent_search _) hk).1⟩

/-- With an undefined number, the second search does not find what a new session finds. -/
theorem undefined_search_again :
    Session.new {} .standard = .ok started ∧ Consistent ([search "1e999 - 1e999"] ++ [search "1e999 - 1e999"]) ∧
      ((started.afterAll [search "1e999 - 1e999"]).apply (.finished (searching "1e999 - 1e999"))
        (.transcript oneWord) .absent).2.applied.length = 0 ∧
      (started.apply (.finished (searching "1e999 - 1e999")) (.transcript oneWord)
        OptionsSource.absent.uncached).2.applied.length = 1 :=
  ⟨new_started, consistent_search _, by decide +kernel, by decide +kernel⟩

end Session
end CaptionAnimation
