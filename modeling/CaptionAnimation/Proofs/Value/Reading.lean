import CaptionAnimation.Value.Field

/-! # What can be read out of a value

The values that fields and items lead to, one after the other. A plain value leads to plain values only, and a list
leads to what its items lead to. -/
namespace CaptionAnimation.Value

/-- Reading fields and items, any number of times, leads from one value to another. -/
inductive LeadsTo : Value → Value → Prop where
  | refl (v : Value) : LeadsTo v v
  | field {v w x : Value} {name : String} (h : v.field? name = .ok (some w)) (rest : LeadsTo w x) : LeadsTo v x
  | item {v w x : Value} {items : List Value} (h : v.items? = some items) (hw : w ∈ items) (rest : LeadsTo w x) :
    LeadsTo v x

theorem LeadsTo.trans {u v w : Value} (h : u.LeadsTo v) (hw : v.LeadsTo w) : u.LeadsTo w := by
  induction h with
  | refl => exact hw
  | field hf _ ih => exact .field hf (ih hw)
  | item hi hm _ ih => exact .item hi hm (ih hw)

/-- Nothing can be read out of a plain value but the length of a text. -/
def isPlain : Value → Bool
  | null | bool _ | number _ | text _ => true
  | _ => false

/-- A value out of which the transcript can be read. -/
def Shows (v : Value) (t : Transcript) : Prop := v.LeadsTo (.transcript t)

theorem isPlain_of_field? {v w : Value} {name : String} (hv : v.isPlain = true) (h : v.field? name = .ok (some w)) :
    w.isPlain = true := by
  cases v with
  | text s =>
    obtain ⟨-, rfl⟩ : name = "length" ∧ Value.int s.length = w := by
      simpa [field?, lengthField?] using h
    rfl
  | null | bool b | number n => cases h
  | _ => cases hv

theorem isPlain_of_leadsTo {v w : Value} (h : v.LeadsTo w) (hv : v.isPlain = true) : w.isPlain = true := by
  induction h with
  | refl => exact hv
  | field hf _ ih => exact ih (isPlain_of_field? hv hf)
  | @item v w x items hi hw _ _ =>
    cases v with
    | null | bool b | number n | text s => cases hi
    | _ => cases hv

theorem not_shows_of_isPlain {v : Value} (hv : v.isPlain = true) (t : Transcript) : ¬ v.Shows t :=
  fun h => absurd (isPlain_of_leadsTo h hv) nofun

/-- What a list shows, one of its items shows. -/
theorem exists_shows_of_list {items : List Value} {t : Transcript} (h : (Value.list items).Shows t) :
    ∃ v ∈ items, v.Shows t := by
  generalize hl : Value.list items = l at h
  cases h with
  | refl => cases hl
  | @field _ w _ name hf rest =>
    subst hl
    obtain ⟨-, rfl⟩ : name = "length" ∧ Value.int items.length = w := by
      simpa [field?, lengthField?] using hf
    exact absurd rest (not_shows_of_isPlain rfl t)
  | @item _ w _ items' hi hw rest =>
    subst hl
    obtain rfl : items = items' := Option.some.inj hi
    exact ⟨w, hw, rest⟩

/-- The duration is the only field whose reading may fail. -/
theorem eq_duration_of_field?_error {t : Transcript} {name : String} {f : Fault}
    (h : t.field? name = .error f) : name = "duration" ∧ t.duration = .error f := by
  unfold Transcript.field? at h
  split at h
  case h_6 =>
    cases hd : t.duration with
    | ok q =>
      rw [hd] at h
      cases h
    | error e =>
      rw [hd] at h
      obtain rfl : e = f := Except.error.inj h
      exact ⟨rfl, rfl⟩
  all_goals cases h

theorem eq_transcript_of_field?_error {v : Value} {name : String} {f : Fault} (h : v.field? name = .error f) :
    ∃ t, v = .transcript t ∧ name = "duration" ∧ t.duration = .error f := by
  cases v with
  | transcript t => exact ⟨t, rfl, eq_duration_of_field?_error h⟩
  | _ => cases h

end CaptionAnimation.Value
