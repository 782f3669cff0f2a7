import CaptionAnimation.Proofs.Expression.Completeness
import CaptionAnimation.Proofs.Expression.Soundness
import CaptionAnimation.Proofs.Expression.Unambiguity

/-! # The accepted sources

A source is read exactly when its tokens derive from the grammar within 64 levels, and its tree is then the tree of the
one phrase that they derive. -/
namespace CaptionAnimation.Expression

/-- The phrase derives the tokens, with at most 64 levels around any point; one is for the whole source. -/
structure Phrase.Spells (p : Phrase) (ts : List Token) : Prop where
  derives : Derives .whole p
  tokens : p.tokens = ts
  nesting : p.nesting + 1 ≤ 64

theorem Phrase.Spells.ne_nil {p : Phrase} {ts : List Token} (h : p.Spells ts) : ts ≠ [] := by
  obtain ⟨t, more, hmore, -⟩ := h.derives.first_whole
  simp [← h.tokens, hmore]

theorem readTokens_eq_ok_iff {ts : List Token} {e : Expr} :
    readTokens ts = .ok e ↔ ∃ p : Phrase, p.Spells ts ∧ p.tree = e := by
  constructor
  · intro h
    obtain ⟨⟨e', rest⟩, hread, h⟩ := bind_eq_ok_iff.mp h
    obtain ⟨p, hp, hpn, htokens, rfl⟩ := (readers_sound maxNesting).1 hread
    dsimp only at h
    split at h
    · next hrest =>
      obtain rfl : p.tree = e := by simpa [pure, Except.pure] using h
      obtain rfl : rest = [] := by simpa using hrest
      exact ⟨p, ⟨hp, by simpa using htokens, hpn⟩, rfl⟩
    · cases h
  · rintro ⟨p, ⟨hp, rfl, hpn⟩, rfl⟩
    have hread := (readers_complete maxNesting).1 hp hpn (quiet_nil _)
    rw [List.append_nil] at hread
    simp [readTokens, hread, bind, Except.bind, pure, Except.pure]

theorem parse_eq_ok_iff {source : String} {ts : List Token} {e : Expr} (hts : scan source = .ok ts) :
    parse source = .ok e ↔ ∃ p : Phrase, p.Spells ts ∧ p.tree = e := by
  by_cases hempty : ts = []
  · constructor
    · intro h
      simp [parse, hts, hempty, bind, Except.bind, throw, throwThe, MonadExceptOf.throw] at h
    · rintro ⟨p, hp, -⟩
      exact absurd hempty hp.ne_nil
  · rw [← readTokens_eq_ok_iff]
    cases hread : readTokens ts <;>
      simp [parse, hts, hempty, hread, bind, Except.bind, pure, Except.pure, throw, throwThe, MonadExceptOf.throw]

/-- What parsing gives for every source: a failed scan fails with its own error; otherwise the trees are those of the
phrases that the tokens spell, there is at most one such phrase, and where there is none the source is rejected. -/
theorem parse_iff_spells (source : String) :
    match scan source with
    | .error e => parse source = .error e
    | .ok ts =>
      (∀ e, parse source = .ok e ↔ ∃ p : Phrase, p.Spells ts ∧ p.tree = e) ∧
      (∀ p q : Phrase, Derives .whole p → Derives .whole q → p.tokens = ts → q.tokens = ts → p = q) ∧
      ((¬ ∃ p : Phrase, p.Spells ts) → ∃ e, parse source = .error e) := by
  split
  · next e he => simp [parse, he, bind, Except.bind]
  · next ts hts =>
    have hok : ∀ e, parse source = .ok e ↔ ∃ p : Phrase, p.Spells ts ∧ p.tree = e := fun e => parse_eq_ok_iff hts
    refine ⟨hok, fun p q hp hq hpts hqts => hp.unique hq (hpts.trans hqts.symm), fun hnone => ?_⟩
    cases hparse : parse source with
    | error e => exact ⟨e, rfl⟩
    | ok e =>
      obtain ⟨p, hp, -⟩ := (hok e).mp hparse
      exact absurd ⟨p, hp⟩ hnone

end CaptionAnimation.Expression
