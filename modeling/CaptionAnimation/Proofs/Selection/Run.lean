import CaptionAnimation.Proofs.Selection.Options
import CaptionAnimation.Proofs.Selection.Winners
import CaptionAnimation.Selection.Run

/-! # What a run depends on

The result of a run does not depend on the counters kept so far, nor on options that choose neither words nor rules.
Collecting the selections of words adds them to the result and changes nothing else. A run that ends does so in one of
few steps at each word. -/
namespace CaptionAnimation

namespace Options

/-- Options that choose the same words and the same rules, within the same limit of time. -/
structure Alike (o o' : Options) : Prop where
  skipUnsure : o.skipUnsure = o'.skipUnsure
  threshold : o.threshold = o'.threshold
  enabledRules : o.enabledRules = o'.enabledRules
  disabledRules : o.disabledRules = o'.disabledRules
  deadline : o.deadline = o'.deadline

theorem Alike.refl (o : Options) : o.Alike o := ⟨rfl, rfl, rfl, rfl, rfl⟩

theorem alike_uncached (o : Options) : o.Alike o.uncached := ⟨rfl, rfl, rfl, rfl, rfl⟩

theorem Alike.skips_eq {o o' : Options} (h : o.Alike o') : o.skips = o'.skips := by
  funext w
  simp only [skips, h.skipUnsure, h.threshold]

theorem Alike.overdue_eq {o o' : Options} (h : o.Alike o') : o.overdue = o'.overdue := by
  simp only [overdue, h.deadline]

theorem Alike.filterRules_eq {o o' : Options} (h : o.Alike o') : o.filterRules = o'.filterRules := by
  funext rules
  simp only [filterRules, admits, h.enabledRules, h.disabledRules]

end Options

/-- The counters kept so far have no say in a verdict. -/
theorem Ledger.judge_snd (l l' : Ledger) (s : Evaluation.Scope) (rules : List CompiledRule) :
    (l.judge s rules).2 = (l'.judge s rules).2 := by
  unfold judge
  generalize Verdict.runAll (fun r => do return (r, ← r.test s)) CompiledRule.testCost rules = run
  obtain ⟨spent, outcome⟩ := run
  cases outcome with
  | error f => rfl
  | ok tests =>
    dsimp only
    cases (Verdict.ranked tests).findSome? fun r => r.rule.group.unkeyable with
    | some kind => rfl
    | none =>
      dsimp only
      generalize Verdict.runAll (fun r => CompiledRule.strength r s) CompiledRule.strengthCost
        (Verdict.leaders (Verdict.ranked tests)) = run'
      obtain ⟨spent', outcome⟩ := run'
      cases outcome <;> rfl

/-- A result without the selections of words. -/
def Application.withoutSelections (a : Application) : Application := { a with selections := none }

namespace Course

/-- The result of a run depends on nothing but the course up to options that are alike. -/
theorem runFrom_congr (c : Course) {o : Options} (h : c.options.Alike o) (words : List PlacedWord) (l l' : Ledger)
    (a : Application) : (c.runFrom words l a).2 = (runFrom { c with options := o } words l' a).2 := by
  induction words generalizing l l' a with
  | nil => rfl
  | cons p rest ih =>
    have hj : (c.judge l p).2 = (judge { c with options := o } l' p).2 := Ledger.judge_snd _ _ _ _
    unfold runFrom
    dsimp only
    rw [h.overdue_eq, h.deadline, h.skips_eq]
    split
    · rfl
    · split <;> rfl
    · split
      · exact ih l l' a.skip
      · generalize c.judge l p = judged at hj ⊢
        generalize judge { c with options := o } l' p = judged' at hj ⊢
        obtain ⟨m, outcome⟩ := judged
        obtain ⟨m', outcome'⟩ := judged'
        obtain rfl : outcome = outcome' := hj
        cases outcome with
        | ok v => exact ih m m' _
        | error f => exact ih m m' _

theorem run_congr (c : Course) (l l' : Ledger) (warnings : List String) :
    (c.run l warnings).2 = (c.run l' warnings).2 :=
  c.runFrom_congr (.refl _) _ l l' _

/-- Collecting selections adds them and changes nothing else. -/
theorem runFrom_withoutSelections (c : Course) (words : List PlacedWord) (l : Ledger) (a : Application) :
    (c.runFrom words l a.withoutSelections).2 = (c.runFrom words l a).2.map Application.withoutSelections := by
  induction words generalizing l a with
  | nil => rfl
  | cons p rest ih =>
    unfold runFrom
    split
    · rfl
    · split <;> rfl
    · split
      · exact ih l a.skip
      · generalize c.judge l p = judged
        obtain ⟨m, outcome⟩ := judged
        cases outcome with
        | ok v => exact ih m (a.add p.id v)
        | error f => exact ih m (a.fail p.id f)

/-- A run that ends, word by word: it is cut off by the limit of time, or passes a word over, or adds its verdict, or
notes why it has none. -/
inductive Ends (c : Course) : List PlacedWord → Ledger → Application → Ledger → Application → Prop where
  | done {l : Ledger} {a : Application} : Ends c [] l a l a
  | cut {p : PlacedWord} {rest : List PlacedWord} {l : Ledger} {a : Application} {shown : String}
    (hlate : c.options.overdue = .ok true) (hshown : c.options.deadline.plain = .ok shown) :
    Ends c (p :: rest) l a l (a.cut shown p.wordIndex c.transcript.words.length)
  | skip {p : PlacedWord} {rest : List PlacedWord} {l l' : Ledger} {a a' : Application}
    (htime : c.options.overdue = .ok false) (hskip : c.options.skips p.word = true) (h : Ends c rest l a.skip l' a') :
    Ends c (p :: rest) l a l' a'
  | add {p : PlacedWord} {rest : List PlacedWord} {l m l' : Ledger} {a a' : Application} {v : Verdict}
    (htime : c.options.overdue = .ok false) (hskip : c.options.skips p.word = false) (hjudge : c.judge l p = (m, .ok v))
    (h : Ends c rest m (a.add p.id v) l' a') : Ends c (p :: rest) l a l' a'
  | fail {p : PlacedWord} {rest : List PlacedWord} {l m l' : Ledger} {a a' : Application} {f : Fault}
    (htime : c.options.overdue = .ok false) (hskip : c.options.skips p.word = false)
    (hjudge : c.judge l p = (m, .error f)) (h : Ends c rest m (a.fail p.id f) l' a') : Ends c (p :: rest) l a l' a'

theorem ends_iff {c : Course} {words : List PlacedWord} {l l' : Ledger} {a a' : Application} :
    c.Ends words l a l' a' ↔ c.runFrom words l a = (l', .ok a') := by
  constructor
  · intro h
    induction h with
    | done => rfl
    | cut hlate hshown => simp only [runFrom, hlate, hshown]
    | skip htime hskip _ ih => simpa only [runFrom, htime, hskip, if_true] using ih
    | add htime hskip hjudge _ ih => simpa only [runFrom, htime, hskip, hjudge, Bool.false_eq_true, if_false] using ih
    | fail htime hskip hjudge _ ih => simpa only [runFrom, htime, hskip, hjudge, Bool.false_eq_true, if_false] using ih
  · intro h
    induction words generalizing l a with
    | nil =>
      cases h
      exact .done
    | cons p rest ih =>
      unfold runFrom at h
      split at h
      · cases h
      · next hlate =>
        split at h
        · next hshown =>
          cases h
          exact .cut hlate hshown
        · cases h
      · next htime =>
        split at h
        · next hskip => exact .skip htime hskip (ih h)
        · next hskip =>
          have hskip := Bool.eq_false_iff.mpr hskip
          split at h
          · next hjudge => exact .add htime hskip hjudge (ih h)
          · next hjudge => exact .fail htime hskip hjudge (ih h)

end Course
end CaptionAnimation
