import CaptionAnimation.Value.Place

/-! # Places are given once

An undefined number that knows its place keeps it, so that placing data again changes nothing. -/
namespace CaptionAnimation

theorem Quantity.placed_placed (p r : Origin) (q : Quantity) : (q.placed p).placed r = q.placed p := by
  unfold Quantity.placed
  by_cases h : (q.value.isNaN && q.origin.isNone) = true
  · rw [if_pos h, if_neg]
    simp
  · rw [if_neg h, if_neg h]

theorem Quantity.map_placed_placed (p r : Origin) (q : Option Quantity) :
    (q.map (Quantity.placed p)).map (Quantity.placed r) = q.map (Quantity.placed p) := by
  cases q with
  | none => rfl
  | some q => simp only [Option.map_some, Quantity.placed_placed]

theorem Number.placed_placed (p r : Origin) (n : Number) : (n.placed p).placed r = n.placed p := by
  cases n with
  | int i => rfl
  | double q => simp only [Number.placed, Quantity.placed_placed]

mutual

theorem Value.placed_placed (p r : Origin) : (v : Value) → (v.placed p).placed r = v.placed p
  | .number n => by simp only [Value.placed, Number.placed_placed]
  | .list items => by simp only [Value.placed, placedItems_placedItems p r 0 0 items]
  | .tuple items => by simp only [Value.placed, placedItems_placedItems p r 0 0 items]
  | .map entries => by simp only [Value.placed, placedEntries_placedEntries p r 0 0 entries]
  | .readOnly entries => by simp only [Value.placed, placedEntries_placedEntries p r 0 0 entries]
  | .word w => by simp only [Value.placed, Word.placed_placed p r w]
  | .segment s => by simp only [Value.placed, Segment.placed_placed p r s]
  | .transcript t => by simp only [Value.placed, Transcript.placedAt_placedAt p r t]
  | .object type fields => by simp only [Value.placed, placedFields_placedFields p r 0 0 fields]
  | .null => rfl
  | .bool _ => rfl
  | .text _ => rfl

theorem placedFields_placedFields (p r : Origin) (i j : Nat) : (fields : List (String × Value)) →
    placedFields r j (placedFields p i fields) = placedFields p i fields
  | [] => rfl
  | (name, v) :: fs => by
    simp only [placedFields, Value.placed_placed _ _ v, placedFields_placedFields p r (i + 1) (j + 1) fs]

theorem placedItems_placedItems (p r : Origin) (i j : Nat) : (items : List Value) →
    placedItems r j (placedItems p i items) = placedItems p i items
  | [] => rfl
  | x :: xs => by
    simp only [placedItems, Value.placed_placed _ _ x, placedItems_placedItems p r (i + 1) (j + 1) xs]

theorem placedEntries_placedEntries (p r : Origin) (i j : Nat) : (entries : List (Value × Value)) →
    placedEntries r j (placedEntries p i entries) = placedEntries p i entries
  | [] => rfl
  | (k, v) :: es => by
    simp only [placedEntries, Value.placed_placed _ _ k, Value.placed_placed _ _ v,
      placedEntries_placedEntries p r (i + 1) (j + 1) es]

theorem Word.placed_placed (p r : Origin) : (w : Word) → (w.placed p).placed r = w.placed p
  | ⟨_, _, _, _, _, features⟩ => by
    simp only [Word.placed, Quantity.placed_placed, placedEntries_placedEntries _ _ 0 0 features]

theorem placedWords_placedWords (p r : Origin) (i j : Nat) : (words : List Word) →
    placedWords r j (placedWords p i words) = placedWords p i words
  | [] => rfl
  | w :: ws => by
    simp only [placedWords, Word.placed_placed _ _ w, placedWords_placedWords p r (i + 1) (j + 1) ws]

theorem Segment.placed_placed (p r : Origin) : (s : Segment) → (s.placed p).placed r = s.placed p
  | ⟨words, _, _, _, text, speaker, emotion, metadata⟩ => by
    simp only [Segment.placed, Quantity.map_placed_placed, placedWords_placedWords _ _ 0 0 words,
      Value.placed_placed _ _ text, Value.placed_placed _ _ speaker, Value.placed_placed _ _ emotion,
      placedEntries_placedEntries _ _ 0 0 metadata]

theorem placedSegments_placedSegments (p r : Origin) (i j : Nat) : (segments : List Segment) →
    placedSegments r j (placedSegments p i segments) = placedSegments p i segments
  | [] => rfl
  | s :: ss => by
    simp only [placedSegments, Segment.placed_placed _ _ s, placedSegments_placedSegments p r (i + 1) (j + 1) ss]

theorem Transcript.placedAt_placedAt (p r : Origin) : (t : Transcript) → (t.placedAt p).placedAt r = t.placedAt p
  | ⟨segments, metadata, _⟩ => by
    simp only [Transcript.placedAt, placedSegments_placedSegments _ _ 0 0 segments,
      placedEntries_placedEntries _ _ 0 0 metadata]

end

theorem Transcript.placed_placed (t : Transcript) : t.placed.placed = t.placed := Transcript.placedAt_placedAt _ _ t

end CaptionAnimation
