import CaptionAnimation.Proofs.Cache.Canonical

/-! # What a fingerprint tells

A transcript with an id is known by the id, and one without by a short digest of its metadata. Metadata that are equal
up to the order of their keys have one digest; other metadata have another one, unless two texts share a digest. An id
is never taken for a digest, since no digest begins as an id does. -/
namespace CaptionAnimation

open Canonical (IsDocument Rearranged keyed)
open Text.Digest (sha256)

/-- The digits of a digest that identify a text. -/
def shortDigest (s : String) : String := String.ofList ((sha256 s.toUTF8.toList).take 16)

/-- Two texts that a short digest cannot tell apart. -/
def Collide (s t : String) : Prop := s ≠ t ∧ shortDigest s = shortDigest t

theorem shortDigest_eq_iff {s t : String} : shortDigest s = shortDigest t ↔ s = t ∨ Collide s t := by
  refine ⟨fun h => ?_, ?_⟩
  · by_cases hst : s = t
    · exact .inl hst
    · exact .inr ⟨hst, h⟩
  · rintro (rfl | h)
    · rfl
    · exact h.2

namespace Transcript

variable {t u : Transcript}

/-- The transcript has no id, or an empty one. -/
def Unnamed (t : Transcript) : Prop := t.id.getD "" = ""

instance : Decidable t.Unnamed := inferInstanceAs (Decidable (_ = _))

theorem fingerprint_of_not_unnamed (h : ¬ t.Unnamed) : t.fingerprint = .ok ("id:" ++ t.id.getD "") := by
  unfold fingerprint
  cases hid : t.id with
  | none => exact absurd (by rw [Unnamed, hid]; rfl) h
  | some id =>
    have hne : id ≠ "" := fun hempty => h (by rw [Unnamed, hid, hempty]; rfl)
    simp [hne]

theorem fingerprint_of_unnamed (h : t.Unnamed) :
    t.fingerprint = (Canonical.text (.map t.metadata)).map shortDigest := by
  unfold fingerprint
  cases hid : t.id with
  | none => rfl
  | some id =>
    rw [Unnamed, hid, Option.getD_some] at h
    subst h
    rfl

/-! ## Digits of a digest -/

theorem digitChar_ne_i {k : Nat} (h : k < 16) : Nat.digitChar k ≠ 'i' := by
  interval_cases k <;> decide

theorem i_not_mem_sha256 (bytes : List UInt8) : 'i' ∉ sha256 bytes := by
  intro h
  obtain ⟨word, -, hdigit⟩ := List.mem_flatMap.mp h
  obtain ⟨place, -, hplace⟩ := List.mem_map.mp hdigit
  exact digitChar_ne_i (Nat.mod_lt _ (by decide)) hplace

/-- No id is taken for a digest. -/
theorem id_ne_shortDigest (id s : String) : "id:" ++ id ≠ shortDigest s := by
  intro h
  have hmem : 'i' ∈ (shortDigest s).toList := by
    rw [← h, String.toList_append]
    exact List.mem_append_left _ List.mem_cons_self
  rw [shortDigest, String.toList_ofList] at hmem
  exact i_not_mem_sha256 _ (List.mem_of_mem_take hmem)

theorem fingerprint_ne (ht : ¬ t.Unnamed) (hu : u.Unnamed) : t.fingerprint ≠ u.fingerprint := by
  rw [fingerprint_of_not_unnamed ht, fingerprint_of_unnamed hu]
  cases Canonical.text (.map u.metadata) with
  | error fault =>
    intro h
    cases h
  | ok s => exact fun h => id_ne_shortDigest _ s (Except.ok.inj h)

/-! ## The fingerprint is canonical -/

/-- The metadata of two transcripts have the same canonical text when they are equal up to the order of keys, and not
otherwise. Without an id both are known by that text, as far as its digest tells it, and never for one with an id. -/
theorem fingerprint_canonical :
    (∀ t u : Transcript, IsDocument (.map t.metadata) → IsDocument (.map u.metadata) →
      ∃ p q : String, Canonical.text (.map t.metadata) = .ok p ∧ Canonical.text (.map u.metadata) = .ok q ∧
        (p = q ↔ Rearranged (.map t.metadata) (.map u.metadata)) ∧
        (t.Unnamed → u.Unnamed → t.fingerprint = .ok (shortDigest p) ∧ u.fingerprint = .ok (shortDigest q) ∧
          (t.fingerprint = u.fingerprint ↔ Rearranged (.map t.metadata) (.map u.metadata) ∨ Collide p q))) ∧
      ∀ t u : Transcript, ¬ t.Unnamed → u.Unnamed → t.fingerprint ≠ u.fingerprint := by
  refine ⟨fun t u ht hu => ?_, fun t u => fingerprint_ne⟩
  have htexts := Canonical.written_eq_iff ht hu
  refine ⟨_, _, ht.hasText, hu.hasText, by rw [String.ofList_inj, htexts], fun hunnamed hunnamed' => ?_⟩
  have hfingerprint := fingerprint_of_unnamed hunnamed
  have hfingerprint' := fingerprint_of_unnamed hunnamed'
  rw [ht.hasText] at hfingerprint
  rw [hu.hasText] at hfingerprint'
  refine ⟨hfingerprint, hfingerprint', ?_⟩
  rw [hfingerprint, hfingerprint']
  simp only [Except.map, Except.ok.injEq, shortDigest_eq_iff, String.ofList_inj, htexts]

/-- A transcript with nothing but metadata and an id. -/
def ofMetadata (id : Option String) (fields : List (String × Value)) : Transcript := ⟨[], keyed fields, id⟩

theorem isDocument_two {k l : String} {v w : Value} (hkeys : k ≠ l) (hv : IsDocument v) (hw : IsDocument w) :
    IsDocument (.map (keyed [(k, v), (l, w)])) :=
  .map _ (by simpa using hkeys) fun f hf => by
    rcases List.mem_cons.mp hf with rfl | hf
    · exact hv
    · obtain rfl := List.mem_singleton.mp hf
      exact hw

/-- A recording, with the fields in two orders at both depths. -/
def recorded (live : Value) : List (String × Value) :=
  [("who", .text "Zoé"), ("at", .map (keyed [("take", .int 2), ("live", live)]))]

def recordedSorted (live : Value) : List (String × Value) :=
  [("at", .map (keyed [("live", live), ("take", .int 2)])), ("who", .text "Zoé")]

theorem recorded_isDocument {live : Value} (h : IsDocument live) : IsDocument (.map (keyed (recorded live))) :=
  isDocument_two (by decide) (.text _) (isDocument_two (by decide) (.int (by decide +kernel)) h)

theorem recordedSorted_isDocument {live : Value} (h : IsDocument live) :
    IsDocument (.map (keyed (recordedSorted live))) :=
  isDocument_two (by decide) (isDocument_two (by decide) h (.int (by decide +kernel))) (.text _)

theorem recorded_rearranged (live : Value) :
    Rearranged (.map (keyed (recorded live))) (.map (keyed (recordedSorted live))) :=
  .map (.swap _ _ []) rfl
    (.cons (.map (.swap _ _ []) rfl (.cons (.refl _) (.cons (.refl _) .nil))) (.cons (.refl _) .nil))

theorem fingerprint_canonical_recorded :
    (ofMetadata none (recorded (.bool true))).fingerprint =
        (ofMetadata (some "") (recordedSorted (.bool true))).fingerprint ∧
      ¬ Rearranged (.map (keyed [("live", .bool true)])) (.map (keyed [("live", .int 1)])) ∧
      (ofMetadata (some "a") (recorded (.bool true))).fingerprint ≠
        (ofMetadata none (recorded (.bool true))).fingerprint := by
  have hlive := recorded_isDocument (.bool true)
  obtain ⟨hsame, hnamed⟩ := fingerprint_canonical
  refine ⟨?_, fun hrearranged => ?_, hnamed _ _ (by decide) (by decide)⟩
  · obtain ⟨p, q, -, -, -, hfingerprints⟩ := hsame (ofMetadata none (recorded (.bool true)))
      (ofMetadata (some "") (recordedSorted (.bool true))) hlive (recordedSorted_isDocument (.bool true))
    obtain ⟨-, -, hiff⟩ := hfingerprints (by decide) (by decide)
    exact hiff.mpr (.inl (recorded_rearranged _))
  · have htrue : IsDocument (.map (keyed [("live", .bool true)])) := .map _ (by decide) (by simpa using .bool true)
    have hone : IsDocument (.map (keyed [("live", .int 1)])) :=
      .map _ (by decide) (by simpa using .int (by decide +kernel))
    obtain ⟨p, q, hp, hq, hiff, -⟩ :=
      hsame (ofMetadata none [("live", .bool true)]) (ofMetadata none [("live", .int 1)]) htrue hone
    have hne : Canonical.text (.map (keyed [("live", .bool true)])) ≠
        Canonical.text (.map (keyed [("live", .int 1)])) := by decide +kernel
    rw [ofMetadata] at hp hq
    exact hne (by rw [hp, hq, hiff.mpr hrearranged])

end Transcript

end CaptionAnimation
