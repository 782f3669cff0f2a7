import CaptionAnimation.Cache.Recent

/-! # What the entries of a cache have in common

Whatever holds of every entry of a cache goes on holding when keys are looked up, when a value of which it holds is
set, and when the cache is cleared: entries are moved and dropped, but never changed. -/
namespace CaptionAnimation.Recent

variable {κ υ : Type} {P : κ → υ → Prop}

/-- Every kept value is right for its key. -/
def Holds (P : κ → υ → Prop) (c : Recent κ υ) : Prop := ∀ e ∈ c.entries, P e.1 e.2

theorem holds_of_ofSize {size : Int} {c : Recent κ υ} (h : ofSize size = .ok c) : c.Holds P := by
  unfold ofSize at h
  split at h
  · cases h
  · cases h
    simp [Holds]

theorem holds_clear (c : Recent κ υ) : c.clear.Holds P := by simp [Holds, clear]

variable [BEq κ]

theorem mem_of_mem_others {c : Recent κ υ} {key : κ} {e : κ × υ} (h : e ∈ c.others key) : e ∈ c.entries :=
  (List.mem_filter.mp h).1

theorem mem_of_stored? {c : Recent κ υ} {key : κ} {e : κ × υ} (h : c.stored? key = some e) : e ∈ c.entries :=
  List.mem_of_find?_eq_some h

theorem beq_of_stored? {c : Recent κ υ} {key : κ} {e : κ × υ} (h : c.stored? key = some e) : (key == e.1) = true := by
  have hfound := List.find?_some (show c.entries.find? (fun e => key == e.1) = some e from h)
  exact hfound

/-- Looking a key up keeps the entries, in another order. -/
theorem Holds.find {c : Recent κ υ} (h : c.Holds P) (key : κ) : (c.find key).2.Holds P := by
  intro e he
  unfold Recent.find at he
  split at he
  · next found hf =>
    rcases List.mem_append.mp he with he | he
    · exact h e (mem_of_mem_others he)
    · rw [List.mem_singleton.mp he]
      exact h found (mem_of_stored? hf)
  · exact h e he

variable [LawfulBEq κ]

theorem key_of_stored? {c : Recent κ υ} {key : κ} {e : κ × υ} (h : c.stored? key = some e) : e.1 = key :=
  (eq_of_beq (beq_of_stored? h)).symm

/-- A value that is found is right for its key. -/
theorem Holds.find_some {c : Recent κ υ} (h : c.Holds P) {key : κ} {value : υ} (hf : (c.find key).1 = some value) :
    P key value := by
  unfold Recent.find at hf
  split at hf
  · next e he =>
    cases hf
    have hp := h e (mem_of_stored? he)
    rwa [key_of_stored? he] at hp
  · cases hf

/-- Setting a value that is right for its key keeps every value right. -/
theorem Holds.set {c : Recent κ υ} (h : c.Holds P) {key : κ} {value : υ} (hv : P key value) :
    (c.set key value).Holds P := by
  intro e he
  rcases List.mem_append.mp (List.mem_of_mem_drop he) with he | he
  · exact h e (mem_of_mem_others he)
  · have hkey : ((c.stored? key).map Prod.fst).getD key = key := by
      cases hs : c.stored? key with
      | none => rfl
      | some found => exact key_of_stored? hs
    rw [List.mem_singleton.mp he]
    dsimp only
    rwa [hkey]

end CaptionAnimation.Recent
