import CaptionAnimation.Proofs.Selection.Accounting

/-! # Rejected calls

A call that is rejected before its first word leaves no trace: it applies nothing and counts nothing, and of the session
only the kept templates can have changed, since a template that has errors is kept like any other. -/
namespace CaptionAnimation

/-- No options, a map of them, or finished ones. -/
def OptionsSource.IsKnown : OptionsSource → Prop
  | absent | finished _ => True
  | data v => v = .null ∨ v.entries?.isSome = true

theorem OptionsSource.IsKnown.read {options : OptionsSource} (h : options.IsKnown) (settings : Settings) :
    (∃ f, options.read settings = .error f) ∨ ∃ o, options.read settings = .ok (.ok o) := by
  have hbind : ∀ x : Except Fault Options, (∃ f, (do return .ok (← x) : Except Fault (Except Fault Options)) = .error f) ∨
      ∃ o, (do return .ok (← x) : Except Fault (Except Fault Options)) = .ok (.ok o) := by
    intro x
    cases x with
    | error f => exact .inl ⟨f, rfl⟩
    | ok o => exact .inr ⟨o, rfl⟩
  cases options with
  | absent => exact hbind _
  | finished o => exact .inr ⟨o, rfl⟩
  | data v =>
    rcases h with rfl | h
    · exact hbind _
    · cases v with
      | map _ | readOnly _ => exact hbind _
      | _ => simp [Value.entries?] at h

/-- Neither a transcript nor a map that can be read as one. -/
def Transcript.Unaccepted (audio : Value) : Prop :=
  (∀ t, audio ≠ .transcript t) ∧ (audio.entries?.isSome = true → ∀ t, Transcript.ofValue audio ≠ .ok t)

theorem Transcript.Unaccepted.expect {audio : Value} (h : Transcript.Unaccepted audio) :
    ∃ f, Transcript.expect audio = .error f := by
  unfold Transcript.expect
  split
  · next t => exact absurd rfl (h.1 t)
  · split
    · next hmap =>
      cases hread : Transcript.ofValue audio with
      | error f => exact ⟨f, rfl⟩
      | ok t => exact absurd hread (h.2 hmap t)
    · exact ⟨_, rfl⟩

/-- The call has failed, and has applied and counted nothing. -/
structure Application.Nothing (a : Application) : Prop where
  success : a.success = false
  applied : a.applied = []
  counters : a.counters = {}

theorem Application.nothing_refused {errors : List String} (h : errors ≠ []) (warnings : List String) :
    (refused errors warnings).Nothing where
  success := by simpa [success, refused] using h
  applied := rfl
  counters := rfl

theorem Application.success_iff (a : Application) : a.success = true ↔ a.errors = [] := List.isEmpty_iff

namespace Session

variable {s : Session} {template : TemplateSource} {options : OptionsSource}

/-- Of a session only the kept templates have changed, and not even these unless the template is one to keep. -/
def ChangesOnlyTemplates (s s' : Session) (t : Template) (o : Options) : Prop :=
  (∃ templates, s' = { s with templates }) ∧ (o.caching.truthy = false ∨ t.id = "" → s' = s)

theorem exists_templates_compiled (s : Session) (t : Template) (useCache : Bool) :
    ∃ templates, (s.compiled t useCache).1 = { s with templates } := by
  unfold compiled
  split
  · exact ⟨s.templates, rfl⟩
  · split
    · exact ⟨_, rfl⟩
    · split <;> exact ⟨_, rfl⟩

theorem ledger_compiled (s : Session) (t : Template) (useCache : Bool) : (s.compiled t useCache).1.ledger = s.ledger := by
  obtain ⟨templates, htemplates⟩ := s.exists_templates_compiled t useCache
  rw [htemplates]

theorem changesOnlyTemplates_compiled (s : Session) (t : Template) (o : Options) :
    s.ChangesOnlyTemplates (s.compiled t o.caching.truthy).1 t o := by
  refine ⟨s.exists_templates_compiled t _, fun h => ?_⟩
  rw [compiled, if_pos]
  simpa [String.isEmpty_iff] using h

theorem apply_of_unreadable_options {f : Fault} (h : options.read s.settings = .error f) (audio : Value) :
    s.apply template audio options = (s, .refused ["Template application failed: " ++ f.message] []) := by
  rw [apply, h]

theorem apply_of_unreadable_template (hknown : template.stranger? = none) {f : Fault} (h : template.read = .error f)
    {o : Options} (ho : options.read s.settings = .ok (.ok o)) (audio : Value) :
    s.apply template audio options = (s, .refused [(Issue.Cause.unreadable f).message] []) := by
  rw [apply, ho, hknown, h]

/-- The answer of a call that was read, in which a fault is an error. -/
def answered : Session × Except Fault Application → Session × Application
  | (s, .ok a) => (s, a)
  | (s, .error f) => (s, .refused ["Template application failed: " ++ f.message] [])

variable {t : Template} {o : Options} {c : CompiledTemplate}

theorem apply_of_read (hknown : template.stranger? = none) (ht : template.read = .ok t)
    (ho : options.read s.settings = .ok (.ok o)) (audio : Value) :
    s.apply template audio options = answered (s.applyRead t audio o) := by
  cases happlied : s.applyRead t audio o with
  | mk s' outcome => cases outcome <;> simp [apply, ho, hknown, ht, happlied, answered]

theorem compiled_eq {outcome : Except Fault CompiledTemplate} {useCache : Bool} (h : (s.compiled t useCache).2 = outcome) :
    s.compiled t useCache = ((s.compiled t useCache).1, outcome) := Prod.ext rfl h

theorem applyRead_of_uncompiled {f : Fault} (hc : (s.compiled t o.caching.truthy).2 = .error f) (audio : Value) :
    s.applyRead t audio o = ((s.compiled t o.caching.truthy).1, .error f) := by
  rw [applyRead, compiled_eq hc]

theorem applyRead_of_invalid (hc : (s.compiled t o.caching.truthy).2 = .ok c) (hv : c.isValid = false) (audio : Value) :
    s.applyRead t audio o = ((s.compiled t o.caching.truthy).1,
      .ok (.refused (c.errors.map Issue.message) ["Template " ++ t.id ++ " has validation errors"])) := by
  rw [applyRead, compiled_eq hc]
  simp [hv]

theorem applyRead_of_unheard (hc : (s.compiled t o.caching.truthy).2 = .ok c) (hv : c.isValid = true) {audio : Value}
    {f : Fault} (h : Transcript.expect audio = .error f) :
    s.applyRead t audio o = ((s.compiled t o.caching.truthy).1, .error f) := by
  rw [applyRead, compiled_eq hc]
  simp [hv, h]

theorem applyRead_of_heard (hc : (s.compiled t o.caching.truthy).2 = .ok c) (hv : c.isValid = true) {audio : Value}
    {given : Transcript} (h : Transcript.expect audio = .ok given) :
    s.applyRead t audio o = (s.compiled t o.caching.truthy).1.applyCompiled c given.placed o := by
  rw [applyRead, compiled_eq hc]
  simp [hv, h]

/-- A call that can be read is refused once its template is compiled, or applies it. -/
theorem refused_or_applied (s : Session) (hknown : template.stranger? = none) (ht : template.read = .ok t)
    (ho : options.read s.settings = .ok (.ok o)) (audio : Value) :
    (∃ errors warnings, s.apply template audio options =
      ((s.compiled t o.caching.truthy).1, .refused errors warnings)) ∨
    ∃ c given, (s.compiled t o.caching.truthy).2 = .ok c ∧ c.isValid = true ∧ Transcript.expect audio = .ok given ∧
      s.apply template audio options =
        answered ((s.compiled t o.caching.truthy).1.applyCompiled c given.placed o) := by
  rw [apply_of_read hknown ht ho]
  cases hc : (s.compiled t o.caching.truthy).2 with
  | error f =>
    rw [applyRead_of_uncompiled hc]
    exact .inl ⟨_, _, rfl⟩
  | ok c =>
    cases hv : c.isValid with
    | false =>
      rw [applyRead_of_invalid hc hv]
      exact .inl ⟨_, _, rfl⟩
    | true =>
      cases hgiven : Transcript.expect audio with
      | error f =>
        rw [applyRead_of_unheard hc hv hgiven]
        exact .inl ⟨_, _, rfl⟩
      | ok given =>
        rw [applyRead_of_heard hc hv hgiven]
        exact .inr ⟨c, given, rfl, hv, rfl, rfl⟩

/-- Every call answers, with errors or with success. One whose options or template cannot be read leaves the session as
it is; one whose template has errors, or which has no transcript, can only have changed the kept templates. -/
theorem apply_rejected (hknown : template.stranger? = none) (hoptions : options.IsKnown) (audio : Value) :
    ((s.apply template audio options).2.success = true ↔ (s.apply template audio options).2.errors = []) ∧
      ((∃ f, options.read s.settings = .error f) ∨ (∃ f, template.read = .error f) →
        (s.apply template audio options).2.success = false ∧ (s.apply template audio options).2.errors ≠ [] ∧
          (s.apply template audio options).1 = s) ∧
      ∀ o t c, options.read s.settings = .ok (.ok o) → template.read = .ok t →
        (s.compiled t o.caching.truthy).2 = .ok c → c.isValid = false ∨ Transcript.Unaccepted audio →
          (s.apply template audio options).2.Nothing ∧
          s.ChangesOnlyTemplates (s.apply template audio options).1 t o ∧
          (c.isValid = false → (s.apply template audio options).2.errors = c.errors.map Issue.message) ∧
          (c.isValid = true → (s.apply template audio options).2.errors.length = 1) := by
  refine ⟨Application.success_iff _, fun hfault => ?_, fun o t c ho ht hc hrejected => ?_⟩
  · have hrefused : ∃ error, s.apply template audio options = (s, .refused [error] []) := by
      rcases hoptions.read s.settings with ⟨f, hf⟩ | ⟨o, ho⟩
      · exact ⟨_, apply_of_unreadable_options hf audio⟩
      · rcases hfault with ⟨f, hf⟩ | ⟨f, hf⟩
        · rw [ho] at hf
          cases hf
        · exact ⟨_, apply_of_unreadable_template hknown hf ho audio⟩
    obtain ⟨error, herror⟩ := hrefused
    rw [herror]
    exact ⟨rfl, List.cons_ne_nil _ _, rfl⟩
  · have htrace := s.changesOnlyTemplates_compiled t o
    rw [apply_of_read hknown ht ho]
    cases hv : c.isValid with
    | false =>
      have herrors : c.errors.map Issue.message ≠ [] := by
        rw [CompiledTemplate.isValid, List.isEmpty_eq_false_iff] at hv
        exact fun h => hv (List.map_eq_nil_iff.mp h)
      rw [applyRead_of_invalid hc hv]
      exact ⟨Application.nothing_refused herrors _, htrace, fun _ => rfl, nofun⟩
    | true =>
      obtain ⟨f, hf⟩ := (hrejected.resolve_left (by simp [hv])).expect
      rw [applyRead_of_unheard hc hv hf]
      exact ⟨Application.nothing_refused (List.cons_ne_nil _ _) _, htrace, nofun, fun _ => rfl⟩

/-- A template that calls a helper there is not. -/
def helpless : Template := { lineup with id := "helpless", rules := [Verdict.plainRule "none" "helped(word)" "base" 1] }

/-- Options with room for no evaluation. -/
def crampedOptions : OptionsSource := .data (.map [(.text "maxConcurrentEvaluations", .int 0)])

/-- A call with options out of bounds, one with a template that has errors, and one without a transcript. -/
theorem rejected_three :
    (crampedOptions.IsKnown ∧ (∃ f, crampedOptions.read started.settings = .error f) ∧
      (started.apply (.finished lineup) .null crampedOptions).1 = started) ∧
    (∃ c, (started.compiled helpless reporting.caching.truthy).2 = .ok c ∧ c.isValid = false ∧
      (started.apply (.finished helpless) .null (.finished reporting)).2.Nothing ∧
      (started.apply (.finished helpless) .null (.finished reporting)).2.errors = c.errors.map Issue.message) ∧
    ∃ c, (started.compiled lineup reporting.caching.truthy).2 = .ok c ∧ c.isValid = true ∧
      Transcript.Unaccepted .null ∧
      started.ChangesOnlyTemplates (started.apply (.finished lineup) .null (.finished reporting)).1 lineup reporting ∧
      (started.apply (.finished lineup) .null (.finished reporting)).2.errors.length = 1 := by
  have hnull : Transcript.Unaccepted .null := ⟨nofun, nofun⟩
  have hcramped : crampedOptions.IsKnown := .inr rfl
  have hknown (t : Template) : (TemplateSource.finished t).stranger? = none := rfl
  have hfinished : (OptionsSource.finished reporting).IsKnown := trivial
  refine ⟨?_, ?_, ?_⟩
  · have hread : ∃ f, crampedOptions.read started.settings = .error f := exists_error_of_isOk (by decide +kernel)
    exact ⟨hcramped, hread, ((apply_rejected rfl hcramped .null).2.1 (.inl hread)).2.2⟩
  · obtain ⟨c, hc, hv⟩ : ∃ c, (started.compiled helpless reporting.caching.truthy).2 = .ok c ∧ (!c.isValid) = true :=
      exists_ok_of_any (by decide +kernel)
    rw [Bool.not_eq_true'] at hv
    obtain ⟨hnothing, -, herrors, -⟩ :=
      (apply_rejected (hknown helpless) hfinished .null).2.2 reporting helpless c rfl rfl hc (.inl hv)
    exact ⟨c, hc, hv, hnothing, herrors hv⟩
  · obtain ⟨c, hc, hv⟩ : ∃ c, (started.compiled lineup reporting.caching.truthy).2 = .ok c ∧ c.isValid = true :=
      exists_ok_of_any (by decide +kernel)
    obtain ⟨-, htrace, -, hone⟩ :=
      (apply_rejected (hknown lineup) hfinished .null).2.2 reporting lineup c rfl rfl hc (.inr hnull)
    exact ⟨c, hc, hv, hnull, htrace, hone hv⟩

end Session
end CaptionAnimation
