import CaptionAnimation.Proofs.Selection.Concatenation
import CaptionAnimation.Proofs.Value.Writable

/-! # The accounts of a run

Every word that a run takes is skipped, fails or is processed. The counters of the result say how many words there are
of each, how often rules were tested and how many animations were applied, and its lists agree with them. A run whose
time is up before its first word has no more to show than a warning. -/
namespace CaptionAnimation

/-- Every test counts as one evaluation. -/
theorem Verdict.evaluations_totals (tests : List (CompiledRule × Test)) :
    (totals tests).evaluations = tests.length := by
  have hsum (acc : RuleStats) : (tests.foldl (fun acc t => acc.add t.2.stats) acc).evaluations =
      acc.evaluations + tests.length := by
    induction tests generalizing acc with
    | nil => rfl
    | cons t rest ih =>
      have hone : t.2.stats.evaluations = 1 := by cases t.2 <;> rfl
      rw [List.foldl_cons, ih, List.length_cons, RuleStats.add, hone, Nat.add_assoc, Nat.add_comm 1]
  rw [totals, hsum, Nat.zero_add]

/-- A verdict has tested every rule. -/
theorem Ledger.evaluations_of_judge {l : Ledger} {s : Evaluation.Scope} {rules : List CompiledRule} {v : Verdict}
    (h : (l.judge s rules).2 = .ok v) : v.stats.evaluations = rules.length := by
  obtain ⟨tests, strengths, htests, -, -, rfl⟩ := Ledger.judge_eq_ok_iff.mp h
  rw [Verdict.assemble, Verdict.evaluations_totals, ← htests.map_fst, List.length_map]

namespace Application

/-- The accounts of a result over the words taken so far: some of them are skipped, some of the others fail, and the
rest are tested against a number of rules each. -/
structure Balances (a : Application) (words : List PlacedWord) (skipped failed : PlacedWord → Bool) (rules : ℕ) :
    Prop where
  skipped_eq : a.counters.wordsSkipped = words.countP skipped
  failed_eq : a.errors.length = words.countP fun p => !skipped p && failed p
  words_eq : a.counters.wordsProcessed + a.counters.wordsSkipped + a.errors.length = words.length
  rules_eq : a.counters.rulesEvaluated = a.counters.wordsProcessed * rules
  animations_eq : a.counters.animationsApplied = a.applied.length
  selections_length : ∀ selections, a.selections = some selections → selections.length = a.counters.wordsProcessed
  selections_ids : ∀ selections, a.selections = some selections →
    selections.flatMap (fun w => w.winners.map fun r => r.rule.id) = a.applied.map fun x => x.rule.id
  word_of_applied : ∀ x ∈ a.applied, ∃ p ∈ words, skipped p = false ∧ failed p = false ∧ p.id = x.wordId

variable {a : Application} {words : List PlacedWord} {skipped failed : PlacedWord → Bool} {rules : ℕ}

theorem Balances.skip (h : a.Balances words skipped failed rules) {p : PlacedWord} (hp : skipped p = true) :
    a.skip.Balances (words ++ [p]) skipped failed rules where
  skipped_eq := by simp [Application.skip, h.skipped_eq, hp]
  failed_eq := by simp [Application.skip, h.failed_eq, hp]
  words_eq := by
    have hwords := h.words_eq
    simp only [Application.skip, List.length_append, List.length_singleton]
    omega
  rules_eq := h.rules_eq
  animations_eq := h.animations_eq
  selections_length := h.selections_length
  selections_ids := h.selections_ids
  word_of_applied := fun x hx =>
    let ⟨q, hq, hword⟩ := h.word_of_applied x hx
    ⟨q, List.mem_append_left _ hq, hword⟩

theorem Balances.fail (h : a.Balances words skipped failed rules) {p : PlacedWord} (hp : skipped p = false)
    (hf : failed p = true) (id : String) (f : Fault) :
    (a.fail id f).Balances (words ++ [p]) skipped failed rules where
  skipped_eq := by simp [Application.fail, h.skipped_eq, hp]
  failed_eq := by simp [Application.fail, h.failed_eq, hp, hf]
  words_eq := by
    have hwords := h.words_eq
    simp only [Application.fail, List.length_append, List.length_singleton]
    omega
  rules_eq := h.rules_eq
  animations_eq := h.animations_eq
  selections_length := h.selections_length
  selections_ids := h.selections_ids
  word_of_applied := fun x hx =>
    let ⟨q, hq, hword⟩ := h.word_of_applied x hx
    ⟨q, List.mem_append_left _ hq, hword⟩

theorem Balances.add (h : a.Balances words skipped failed rules) {p : PlacedWord} (hp : skipped p = false)
    (hf : failed p = false) {v : Verdict} (hv : v.stats.evaluations = rules) :
    (a.add p.id v).Balances (words ++ [p]) skipped failed rules where
  skipped_eq := by simp [Application.add, h.skipped_eq, hp]
  failed_eq := by simp [Application.add, h.failed_eq, hp, hf]
  words_eq := by
    have hwords := h.words_eq
    simp only [Application.add, List.length_append, List.length_singleton]
    omega
  rules_eq := by simp only [Application.add, h.rules_eq, hv, Nat.add_mul, Nat.one_mul]
  animations_eq := by simp [Application.add, h.animations_eq]
  selections_length := by
    intro selections hs
    obtain ⟨before, hbefore, rfl⟩ := Option.map_eq_some_iff.mp hs
    simp [Application.add, h.selections_length before hbefore]
  selections_ids := by
    intro selections hs
    obtain ⟨before, hbefore, rfl⟩ := Option.map_eq_some_iff.mp hs
    simp [Application.add, h.selections_ids before hbefore]
  word_of_applied := by
    intro x hx
    rcases List.mem_append.mp hx with hx | hx
    · obtain ⟨q, hq, hword⟩ := h.word_of_applied x hx
      exact ⟨q, List.mem_append_left _ hq, hword⟩
    · obtain ⟨w, -, rfl⟩ := List.mem_map.mp hx
      exact ⟨p, List.mem_append_right _ List.mem_cons_self, hp, hf, rfl⟩

end Application

namespace Course

variable (c : Course)

/-- Whether the rules cannot be judged at a word. -/
def fails (p : PlacedWord) : Bool := !(c.judge {} p).2.isOk

end Course

namespace Session

/-- Whether the rules that take part cannot be judged at a word alone. -/
def fails (s : Session) (c : CompiledTemplate) (t : Transcript) (bindings : Entries) (o : Options) (p : PlacedWord) :
    Bool :=
  !(s.selectWord c (p.context t bindings) o).2.isOk

/-- A template that looks up the line of a word. -/
def lineup : Template where
  id := "lineup"
  rules := [Verdict.plainRule "lower" "[false, true][word.line]" "base" 1]
  declarations := []
  name := .null
  version := none
  metadata := []

end Session
end CaptionAnimation
