import CaptionAnimation.Selection.Statistics
import Mathlib

/-! # Sums of statistics

What is recorded is added to one entry, so that a count over the entries of any keys grows by what is recorded under
them. Every key has one entry; the statistics of a rule are the sum of its entries over the templates. -/
namespace CaptionAnimation

attribute [ext] RuleKey

namespace RuleStats

/-- A count of which sums are the sums. -/
structure Additive (count : RuleStats → ℕ) : Prop where
  zero : count {} = 0
  add : ∀ a b, count (a.add b) = count a + count b

theorem additive_evaluations : Additive evaluations := ⟨rfl, fun _ _ => rfl⟩

theorem additive_matched : Additive matched := ⟨rfl, fun _ _ => rfl⟩

theorem additive_errors : Additive errors := ⟨rfl, fun _ _ => rfl⟩

/-- Every evaluation that matched or failed is counted as one, and none did both. -/
def Sound (s : RuleStats) : Prop := s.matched + s.errors ≤ s.evaluations

theorem Sound.add {a b : RuleStats} (ha : a.Sound) (hb : b.Sound) : (a.add b).Sound := by
  unfold Sound RuleStats.add at *
  dsimp only
  omega

theorem Additive.foldl_add {count : RuleStats → ℕ} (h : Additive count) (l : List RuleStats) (a : RuleStats) :
    count (l.foldl RuleStats.add a) = count a + (l.map count).sum := by
  induction l generalizing a with
  | nil => rfl
  | cons b rest ih => rw [List.foldl_cons, ih, h.add, List.map_cons, List.sum_cons, Nat.add_assoc]

end RuleStats

namespace Statistics

open RuleStats (Additive additive_evaluations additive_matched additive_errors)

/-- What a count adds up to over the entries of some keys. -/
def total (count : RuleStats → ℕ) (p : RuleKey → Bool) (s : Statistics) : ℕ :=
  ((s.filter fun e => p e.1).map fun e => count e.2).sum

variable {count : RuleStats → ℕ} {p : RuleKey → Bool}

@[simp]
theorem total_nil : total count p [] = 0 := rfl

theorem total_cons (e : RuleKey × RuleStats) (s : Statistics) :
    total count p (e :: s) = (if p e.1 then count e.2 else 0) + total count p s := by
  cases h : p e.1 <;> simp [total, h]

theorem total_record (h : Additive count) (key : RuleKey) (stats : RuleStats) (s : Statistics) :
    total count p (record key stats s) = total count p s + if p key then count stats else 0 := by
  induction s with
  | nil => rw [record, total_cons, total_nil, Nat.add_comm]
  | cons e rest ih =>
    obtain ⟨k, found⟩ := e
    rw [record]
    split
    · next hk =>
      subst hk
      rw [total_cons, total_cons, h.add]
      cases p k <;> simp only [Bool.false_eq_true, if_true, if_false] <;> omega
    · rw [total_cons, total_cons, ih, Nat.add_assoc]

theorem total_recordAll (h : Additive count) (s : Statistics) (outcomes : List (RuleKey × RuleStats)) :
    total count p (s.recordAll outcomes) = total count p s + total count p outcomes := by
  induction outcomes generalizing s with
  | nil => rfl
  | cons e rest ih =>
    have hstep : s.recordAll (e :: rest) = (record e.1 e.2 s).recordAll rest := rfl
    rw [hstep, ih, total_record h, total_cons, Nat.add_assoc]

/-! ## Entries -/

/-- Every key has one entry, and every entry is sound. -/
structure Sound (s : Statistics) : Prop where
  nodup : (s.map Prod.fst).Nodup
  entries : ∀ e ∈ s, e.2.Sound

theorem sound_nil : Sound [] := ⟨List.nodup_nil, List.forall_mem_nil _⟩

theorem mem_keys_record {k key : RuleKey} {stats : RuleStats} {s : Statistics}
    (h : k ∈ (record key stats s).map Prod.fst) : k = key ∨ k ∈ s.map Prod.fst := by
  induction s with
  | nil => simpa [record] using h
  | cons e rest ih =>
    rw [record] at h
    split at h
    · exact .inr h
    · rcases List.mem_cons.mp h with rfl | h
      · exact .inr List.mem_cons_self
      · exact (ih h).imp_right (List.mem_cons_of_mem _)

theorem Sound.record {s : Statistics} (h : s.Sound) (key : RuleKey) {stats : RuleStats} (hs : stats.Sound) :
    (record key stats s).Sound := by
  induction s with
  | nil => exact ⟨List.nodup_singleton _, List.forall_mem_singleton.mpr hs⟩
  | cons e rest ih =>
    obtain ⟨hnew, hnodup⟩ := List.nodup_cons.mp h.nodup
    obtain ⟨he, hrest⟩ := List.forall_mem_cons.mp h.entries
    rw [Statistics.record]
    split
    · exact ⟨h.nodup, List.forall_mem_cons.mpr ⟨he.add hs, hrest⟩⟩
    · next hne =>
      obtain ⟨hnodup', hentries'⟩ := ih ⟨hnodup, hrest⟩
      refine ⟨List.nodup_cons.mpr ⟨fun hmem => ?_, hnodup'⟩, List.forall_mem_cons.mpr ⟨he, hentries'⟩⟩
      exact (mem_keys_record hmem).elim hne hnew

theorem Sound.recordAll {s : Statistics} (h : s.Sound) {outcomes : List (RuleKey × RuleStats)}
    (ho : ∀ e ∈ outcomes, e.2.Sound) : (s.recordAll outcomes).Sound := by
  induction outcomes generalizing s with
  | nil => exact h
  | cons e rest ih =>
    obtain ⟨he, hrest⟩ := List.forall_mem_cons.mp ho
    exact ih (h.record e.1 he) hrest

/-! ## Lookups -/

/-- The keys that a lookup is about. -/
def asked (rule : String) (template : Option String) (key : RuleKey) : Bool :=
  key.rule == rule && template.all (· == key.template)

/-- What is looked up counts as much as the entries it is about. -/
theorem count_lookup (h : Additive count) (s : Statistics) (rule : String) (template : Option String) :
    count ((s.lookup rule template).getD {}) = total count (asked rule template) s := by
  have hfold : (s.lookup rule template).getD {} =
      ((s.filter fun e => asked rule template e.1).map Prod.snd).foldl RuleStats.add {} := by
    unfold lookup
    split
    · next hnil => exact (congrArg (List.foldl RuleStats.add {}) hnil).symm
    · rfl
  rw [hfold, h.foldl_add, h.zero, Nat.zero_add, List.map_map]
  rfl

/-- What is looked up is sound, as a sum of sound entries. -/
theorem Sound.lookup {s : Statistics} (h : s.Sound) (rule : String) (template : Option String) :
    ((s.lookup rule template).getD {}).Sound := by
  rw [RuleStats.Sound, count_lookup additive_matched, count_lookup additive_errors, count_lookup additive_evaluations]
  have hentries := h.entries
  clear h
  induction s with
  | nil => exact Nat.zero_le _
  | cons e rest ih =>
    obtain ⟨he, hrest⟩ := List.forall_mem_cons.mp hentries
    have hih := ih hrest
    rw [RuleStats.Sound] at he
    simp only [total_cons]
    split <;> omega

end Statistics
end CaptionAnimation
