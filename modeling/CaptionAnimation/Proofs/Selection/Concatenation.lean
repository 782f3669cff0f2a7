import CaptionAnimation.Proofs.Selection.Places
import CaptionAnimation.Proofs.Selection.Transparency

/-! # A run is its words, one after the other

Nothing passes from one word of a run to the next but the counters, and they have no say in a verdict. A run without
a limit of time therefore gives, in document order, what each word that is not skipped gives on its own. -/
namespace CaptionAnimation

namespace Course

variable (c : Course)

/-- Takes one word, without regard to the words before it. -/
def advance (a : Application) (p : PlacedWord) : Application :=
  if c.options.skips p.word then a.skip
  else
    match (c.judge {} p).2 with
    | .ok v => a.add p.id v
    | .error f => a.fail p.id f

/-- The verdicts on the words that are not skipped, where there is one. -/
def verdicts (words : List PlacedWord) : List (PlacedWord × Verdict) :=
  (words.filter fun p => !c.options.skips p.word).filterMap fun p => (c.judge {} p).2.toOption.map (p, ·)

/-- Taking a word first takes that word alone. -/
theorem runFrom_cons (h : c.options.overdue = .ok false) (p : PlacedWord) (rest : List PlacedWord) (l : Ledger)
    (a : Application) : ∃ l', c.runFrom (p :: rest) l a = c.runFrom rest l' (c.advance a p) := by
  have hj : (c.judge l p).2 = (c.judge {} p).2 := Ledger.judge_snd _ _ _ _
  rw [runFrom, advance, h, ← hj]
  dsimp only
  split
  · exact ⟨l, rfl⟩
  · generalize c.judge l p = judged
    obtain ⟨l', outcome⟩ := judged
    cases outcome <;> exact ⟨l', rfl⟩

/-- Without a limit of time, a run takes every word on its own. -/
theorem runFrom_eq_foldl (h : c.options.overdue = .ok false) (words : List PlacedWord) (l : Ledger) (a : Application) :
    (c.runFrom words l a).2 = .ok (words.foldl c.advance a) := by
  induction words generalizing l a with
  | nil => rfl
  | cons p rest ih =>
    obtain ⟨l', hl⟩ := c.runFrom_cons h p rest l a
    rw [hl, ih, List.foldl_cons]

/-- A part of the result that skipped and failed words leave alone grows with the verdicts. -/
theorem foldl_advance {α : Type} (part : Application → α) (grow : α → PlacedWord × Verdict → α)
    (hskip : ∀ a, part a.skip = part a) (hfail : ∀ a id f, part (a.fail id f) = part a)
    (hadd : ∀ a p v, part (a.add p.id v) = grow (part a) (p, v)) (words : List PlacedWord) (a : Application) :
    part (words.foldl c.advance a) = (c.verdicts words).foldl grow (part a) := by
  induction words generalizing a with
  | nil => rfl
  | cons p rest ih =>
    rw [List.foldl_cons, ih, verdicts, verdicts, List.filter_cons, advance]
    cases c.options.skips p.word with
    | true => simp [hskip]
    | false =>
      cases hj : (c.judge {} p).2 with
      | ok v => simp [hj, hadd, Except.toOption]
      | error f => simp [hj, hfail, Except.toOption]

theorem applied_foldl_advance (words : List PlacedWord) (a : Application) :
    (words.foldl c.advance a).applied = a.applied ++
      (c.verdicts words).flatMap fun (p, v) => v.winners.map fun w => ⟨w.rule, p.id, w.strength⟩ := by
  rw [c.foldl_advance Application.applied (fun l x => l ++ x.2.winners.map fun w => ⟨w.rule, x.1.id, w.strength⟩)
    (fun _ => rfl) (fun _ _ _ => rfl) (fun _ _ _ => rfl), List.foldl_append_eq_append, List.flatMap_def]

theorem warnings_foldl_advance (words : List PlacedWord) (a : Application) :
    (words.foldl c.advance a).warnings = a.warnings ++
      (c.verdicts words).flatMap fun (p, v) => Application.verdictWarnings p.id v := by
  rw [c.foldl_advance Application.warnings (fun l x => l ++ Application.verdictWarnings x.1.id x.2)
    (fun _ => rfl) (fun _ _ _ => rfl) (fun _ _ _ => rfl), List.foldl_append_eq_append, List.flatMap_def]

theorem selections_foldl_advance (words : List PlacedWord) (a : Application) :
    (words.foldl c.advance a).selections =
      a.selections.map (· ++ (c.verdicts words).map fun (p, v) => ⟨p.id, v.winners⟩) := by
  rw [c.foldl_advance Application.selections (fun s x => s.map (· ++ [⟨x.1.id, x.2.winners⟩]))
    (fun _ => rfl) (fun _ _ _ => rfl) (fun _ _ _ => rfl)]
  generalize c.verdicts words = found
  generalize a.selections = selections
  induction found generalizing selections with
  | nil => simp
  | cons x rest ih => simp [ih, Function.comp_def]

end Course

namespace Session

/-- The session gets as far as the words: it reads the options as `o`, compiles the template to `c` without errors,
takes in the transcript as `t`, computes the variables in `run`, and finds the rules that take part. -/
structure Reaches (s : Session) (template : TemplateSource) (audio : Value) (options : OptionsSource)
    (c : CompiledTemplate) (t : Transcript) (o : Options) (run : VariableRun) : Prop where
  known : template.stranger? = none
  read : options.read s.settings = .ok (.ok o)
  compiled : ∃ source, template.read = .ok source ∧ (s.compiled source o.caching.truthy).2 = .ok c
  valid : c.isValid = true
  transcript : ∃ given, Transcript.expect audio = .ok given ∧ given.placed = t
  computed : VariableRun.compute s.helpers c t (if o.caching.truthy then some s.values else none) = (run, .ok ())
  rules : ∃ rules, o.filterRules c.rules = .ok rules

/-- The selections for the words that are not skipped, each made on its own, where there is one. -/
def selectEach (s : Session) (c : CompiledTemplate) (t : Transcript) (bindings : Entries) (o : Options) :
    List (WordSelection × Verdict) :=
  (t.placedWords.filter fun p => !o.skips p.word).filterMap fun p =>
    (s.selectWord c (t.viewAt bindings p.segmentIndex p.position) o).2.toOption

theorem compiled_fst (s : Session) (t : Template) (useCache : Bool) :
    (s.compiled t useCache).1.helpers = s.helpers ∧ (s.compiled t useCache).1.values = s.values := by
  unfold compiled
  split
  · exact ⟨rfl, rfl⟩
  · split
    · exact ⟨rfl, rfl⟩
    · split <;> exact ⟨rfl, rfl⟩

/-- Applying a compiled template runs the rules that take part over the words, unless the variables have no values. -/
theorem applyCompiled_snd (s : Session) {c : CompiledTemplate} {o : Options} {rules : List CompiledRule}
    (h : o.filterRules c.rules = .ok rules) (t : Transcript) {run : VariableRun} {outcome : Except Fault Unit}
    (hrun : VariableRun.compute s.helpers c t (if o.caching.truthy then some s.values else none) = (run, outcome)) :
    (s.applyCompiled c t o).2 =
      outcome.bind fun _ => (Course.run ⟨s.helpers, t, run.values, rules, o⟩ {} run.warnings).2 := by
  unfold applyCompiled
  rw [h]
  dsimp only
  rw [hrun]
  cases outcome with
  | error f => rfl
  | ok u => exact Course.run_congr ⟨s.helpers, t, run.values, rules, o⟩ _ {} run.warnings

/-- The answer of a session that compiles a template without errors. -/
theorem apply_of_compiled (s : Session) {template : TemplateSource} {options : OptionsSource} {t : Template}
    {c : CompiledTemplate} {o : Options} (hknown : template.stranger? = none) (ht : template.read = .ok t)
    (ho : options.read s.settings = .ok (.ok o)) (hc : (s.compiled t o.caching.truthy).2 = .ok c)
    (hv : c.isValid = true) (audio : Value) :
    (s.apply template audio options).2 =
      match Transcript.expect audio with
      | .error f => .refused ["Template application failed: " ++ f.message] []
      | .ok given =>
        match ((s.compiled t o.caching.truthy).1.applyCompiled c given.placed o).2 with
        | .ok a => a
        | .error f => .refused ["Template application failed: " ++ f.message] [] := by
  rw [apply_snd s hknown, ho]
  unfold answer applyRead
  rw [ht]
  dsimp only
  generalize s.compiled t o.caching.truthy = compiled at hc ⊢
  obtain ⟨s', outcome⟩ := compiled
  obtain rfl : outcome = .ok c := hc
  simp only [hv, Bool.not_true, Bool.false_eq_true, if_false]
  cases Transcript.expect audio <;> rfl

/-- The answer of a session that gets as far as the words, by what the run over the words gives. -/
theorem Reaches.apply_eq_run {s : Session} {template : TemplateSource} {audio : Value} {options : OptionsSource}
    {c : CompiledTemplate} {t : Transcript} {o : Options} {run : VariableRun}
    (h : s.Reaches template audio options c t o run) :
    ∃ rules, o.filterRules c.rules = .ok rules ∧
      (s.apply template audio options).2 =
        match (Course.run ⟨s.helpers, t, run.values, rules, o⟩ {} run.warnings).2 with
        | .ok a => a
        | .error f => .refused ["Template application failed: " ++ f.message] [] := by
  obtain ⟨source, hsource, hc⟩ := h.compiled
  obtain ⟨given, hgiven, rfl⟩ := h.transcript
  obtain ⟨rules, hrules⟩ := h.rules
  obtain ⟨hhelpers, hvalues⟩ := s.compiled_fst source o.caching.truthy
  refine ⟨rules, hrules, ?_⟩
  rw [apply_of_compiled s h.known hsource h.read hc h.valid, hgiven]
  generalize (s.compiled source o.caching.truthy).1 = s' at hhelpers hvalues ⊢
  have hcomputed := h.computed
  rw [← hhelpers, ← hvalues] at hcomputed
  dsimp only
  rewrite [s'.applyCompiled_snd hrules given.placed hcomputed, hhelpers]
  rfl

/-- Without a limit of time, the answer takes every word on its own. -/
theorem Reaches.apply_eq {s : Session} {template : TemplateSource} {audio : Value} {options : OptionsSource}
    {c : CompiledTemplate} {t : Transcript} {o : Options} {run : VariableRun}
    (h : s.Reaches template audio options c t o run) (hd : o.deadline = .null) :
    ∃ rules, o.filterRules c.rules = .ok rules ∧
      (s.apply template audio options).2 =
        t.placedWords.foldl (Course.advance ⟨s.helpers, t, run.values, rules, o⟩)
          { warnings := run.warnings, selections := if o.debugInfo.truthy then some [] else none } := by
  obtain ⟨rules, hrules, hresult⟩ := h.apply_eq_run
  refine ⟨rules, hrules, ?_⟩
  have hoverdue : o.overdue = .ok false := by rw [Options.overdue, hd]
  rw [hresult, Course.run, Course.runFrom_eq_foldl ⟨s.helpers, t, run.values, rules, o⟩ hoverdue]

/-- Selecting for a word alone gives the verdict that a run gives. -/
theorem selectWord_snd (s : Session) {c : CompiledTemplate} {o : Options} {rules : List CompiledRule}
    (h : o.filterRules c.rules = .ok rules) (t : Transcript) (bindings : Entries) (p : PlacedWord) :
    (s.selectWord c (p.context t bindings) o).2 =
      (Course.judge ⟨s.helpers, t, bindings, rules, o⟩ {} p).2.map fun v => (⟨p.id, v.winners⟩, v) := by
  rw [Course.judge, Ledger.judge_snd _ s.ledger, selectWord, h]
  dsimp only
  generalize s.ledger.judge { context := p.context t bindings, helpers := s.helpers } rules = judged
  obtain ⟨l, outcome⟩ := judged
  cases outcome <;> rfl

/-- Selecting for each word alone gives the verdicts of a run. -/
theorem selectEach_eq (s : Session) {c : CompiledTemplate} {o : Options} {rules : List CompiledRule}
    (h : o.filterRules c.rules = .ok rules) (t : Transcript) (bindings : Entries) :
    s.selectEach c t bindings o =
      (Course.verdicts ⟨s.helpers, t, bindings, rules, o⟩ t.placedWords).map fun (p, v) => (⟨p.id, v.winners⟩, v) := by
  rw [selectEach, Course.verdicts, List.map_filterMap]
  refine List.filterMap_congr fun p hp => ?_
  have hstands := Transcript.stands_of_mem (List.mem_filter.mp hp).1
  rw [← hstands.context_eq, s.selectWord_snd h]
  cases (Course.judge ⟨s.helpers, t, bindings, rules, o⟩ {} p).2 <;> rfl

/-- A run without a limit of time is the concatenation of the selections for its words, each made on its own by any
session with the same helpers. Every word is taken once, in document order; it stands where its place says, and the
rules see that place. -/
theorem apply_eq_selections {s fresh : Session} {template : TemplateSource} {audio : Value} {options : OptionsSource}
    {c : CompiledTemplate} {t : Transcript} {o : Options} {run : VariableRun}
    (h : s.Reaches template audio options c t o run) (hd : o.deadline = .null) (hf : fresh.helpers = s.helpers) :
    let each := fresh.selectEach c t run.values o
    let result := (s.apply template audio options).2
    result.applied = each.flatMap (fun (w, _) => w.winners.map fun r => ⟨r.rule, w.wordId, r.strength⟩) ∧
      result.selections = (if o.debugInfo.truthy then some (each.map (·.1)) else none) ∧
      result.warnings = run.warnings ++ each.flatMap (fun (w, v) => Application.verdictWarnings w.wordId v) ∧
      t.placedWords.map PlacedWord.wordIndex = List.range t.words.length ∧
      ∀ p ∈ t.placedWords, t.words[p.wordIndex]? = some p.word ∧ t.segments[p.segmentIndex]? = some p.segment ∧
        p.segment.words[p.position]? = some p.word ∧
        t.viewAt run.values p.segmentIndex p.position = p.context t run.values := by
  obtain ⟨rules, hrules, hresult⟩ := h.apply_eq hd
  have heach := fresh.selectEach_eq hrules t run.values
  rw [hf] at heach
  dsimp only
  rw [hresult, Course.applied_foldl_advance, Course.selections_foldl_advance, Course.warnings_foldl_advance, heach]
  refine ⟨by rw [List.flatMap_map]; rfl, ?_, by rw [List.flatMap_map], t.map_wordIndex_placedWords, ?_⟩
  · split <;> simp [Function.comp_def]
  · intro p hp
    have hstands := Transcript.stands_of_mem hp
    exact ⟨hstands.words_eq, hstands.segment, hstands.word, (hstands.context_eq run.values).symm⟩

/-- A template for transcripts of some length. -/
def lengthy : Template where
  id := "lengthy"
  rules := [Verdict.plainRule "every" "variables.long" "base" 1]
  declarations := [{ name := "long", expression := .text "totalWords > 2" }]
  name := .null
  version := none
  metadata := []

/-- A word that was heard with some confidence. -/
def heard (text : String) (confidence : Float) : Word := ⟨text, ⟨0.25, none⟩, ⟨0.5, none⟩, ⟨confidence, none⟩, none, []⟩

/-- A transcript with empty segments and a word that is not sure. -/
def gapped : Transcript where
  segments := [[], [heard "um" 0.25, heard "good" 1], [], [heard "night" 1]].map fun words =>
    ⟨words, none, none, none, .null, .null, .null, []⟩
  metadata := []
  id := some "gapped"

/-- Options that skip unsure words and report the selections. -/
def reporting : Options := { debugInfo := .bool true, threshold := .float 0.5 }

theorem gapped_run :
    ∃ c run, started.Reaches (.finished lengthy) (.transcript gapped) (.finished reporting) c gapped.placed reporting
        run ∧ reporting.deadline = .null ∧
      (started.apply (.finished lengthy) (.transcript gapped) (.finished reporting)).2.applied =
        (started.selectEach c gapped.placed run.values reporting).flatMap
          (fun (w, _) => w.winners.map fun r => ⟨r.rule, w.wordId, r.strength⟩) ∧
      (started.apply (.finished lengthy) (.transcript gapped) (.finished reporting)).2.applied.map (·.wordId) =
        ["1-1", "3-0"] := by
  obtain ⟨c, hc, hgood⟩ : ∃ c, (started.compiled lengthy true).2 = .ok c ∧
      (c.isValid && (VariableRun.compute .standard c gapped.placed (some started.values)).2.isOk
        && (reporting.filterRules c.rules).isOk) = true :=
    exists_ok_of_any (by decide +kernel)
  simp only [Bool.and_eq_true] at hgood
  obtain ⟨u, hu⟩ := exists_ok_of_isOk hgood.1.2
  have hreaches : started.Reaches (.finished lengthy) (.transcript gapped) (.finished reporting) c gapped.placed
      reporting (VariableRun.compute .standard c gapped.placed (some started.values)).1 :=
    ⟨rfl, rfl, ⟨lengthy, rfl, hc⟩, hgood.1.1, ⟨gapped, rfl, rfl⟩, Prod.ext rfl hu, exists_ok_of_isOk hgood.2⟩
  exact ⟨c, _, hreaches, rfl, (apply_eq_selections hreaches rfl rfl).1, by decide +kernel⟩

end Session
end CaptionAnimation
