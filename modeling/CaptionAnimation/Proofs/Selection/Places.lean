import CaptionAnimation.Selection.Run
import Mathlib.Data.List.Basic

/-! # The places of words

The words of a transcript are taken in document order, and each stands where its place says: at its position in its
segment, and at its running index over the whole transcript. What is seen at a word can be found from its segment and
position alone. -/
namespace CaptionAnimation

/-- The word stands at its place in the transcript. -/
structure PlacedWord.Stands (p : PlacedWord) (t : Transcript) : Prop where
  segment : t.segments[p.segmentIndex]? = some p.segment
  word : p.segment.words[p.position]? = some p.word
  wordIndex : p.wordIndex = ((t.segments.take p.segmentIndex).flatMap Segment.words).length + p.position

namespace Transcript

theorem mem_placeWords {s : Segment} {segmentIndex position wordIndex : Nat} {words : List Word} {p : PlacedWord}
    (h : p ∈ placeWords s segmentIndex position wordIndex words) :
    p.segment = s ∧ p.segmentIndex = segmentIndex ∧
      ∃ k, words[k]? = some p.word ∧ p.position = position + k ∧ p.wordIndex = wordIndex + k := by
  induction words generalizing position wordIndex with
  | nil => simp [placeWords] at h
  | cons w rest ih =>
    rcases List.mem_cons.mp h with rfl | h
    · exact ⟨rfl, rfl, 0, rfl, rfl, rfl⟩
    · obtain ⟨hs, hi, k, hk, hp, hw⟩ := ih h
      exact ⟨hs, hi, k + 1, hk, by omega, by omega⟩

/-- The segments `before` have been passed. -/
theorem mem_placeSegments {before rest : List Segment} {metadata : Entries} {id : Option String} {p : PlacedWord}
    (h : p ∈ placeSegments before.length (before.flatMap Segment.words).length rest) :
    p.Stands ⟨before ++ rest, metadata, id⟩ := by
  induction rest generalizing before with
  | nil => simp [placeSegments] at h
  | cons s rest ih =>
    rcases List.mem_append.mp h with h | h
    · obtain ⟨rfl, hi, k, hk, hp, hw⟩ := mem_placeWords h
      rw [Nat.zero_add] at hp
      exact ⟨by simp [hi], by rw [hp]; exact hk, by rw [hw, hp, hi, List.take_left]⟩
    · have hpassed : p ∈ placeSegments (before ++ [s]).length ((before ++ [s]).flatMap Segment.words).length rest := by
        simpa [Nat.add_assoc] using h
      have hstands := ih hpassed
      rwa [List.append_assoc] at hstands

theorem stands_of_mem {t : Transcript} {p : PlacedWord} (h : p ∈ t.placedWords) : p.Stands t := by
  obtain ⟨segments, metadata, id⟩ := t
  exact @mem_placeSegments [] segments metadata id p h

theorem map_wordIndex_placeWords (s : Segment) (segmentIndex position wordIndex : Nat) (words : List Word) :
    (placeWords s segmentIndex position wordIndex words).map PlacedWord.wordIndex =
      List.range' wordIndex words.length := by
  induction words generalizing position wordIndex with
  | nil => rfl
  | cons w rest ih => simp only [placeWords, List.map_cons, ih, List.length_cons, List.range'_succ]

theorem map_wordIndex_placeSegments (segmentIndex wordIndex : Nat) (segments : List Segment) :
    (placeSegments segmentIndex wordIndex segments).map PlacedWord.wordIndex =
      List.range' wordIndex (segments.flatMap Segment.words).length := by
  induction segments generalizing segmentIndex wordIndex with
  | nil => rfl
  | cons s rest ih =>
    simp only [placeSegments, List.map_append, map_wordIndex_placeWords, ih, List.flatMap_cons, List.length_append,
      List.range'_append_1]

/-- Every word is taken once, in document order. -/
theorem map_wordIndex_placedWords (t : Transcript) :
    t.placedWords.map PlacedWord.wordIndex = List.range t.words.length := by
  rw [List.range_eq_range']
  exact map_wordIndex_placeSegments 0 0 t.segments

end Transcript

namespace PlacedWord.Stands

variable {p : PlacedWord} {t : Transcript}

theorem words_eq (h : p.Stands t) : t.words[p.wordIndex]? = some p.word := by
  obtain ⟨hi, hs⟩ := List.getElem?_eq_some_iff.mp h.segment
  have hsplit : t.words = (t.segments.take p.segmentIndex).flatMap Segment.words ++
      (p.segment.words ++ (t.segments.drop (p.segmentIndex + 1)).flatMap Segment.words) := by
    rw [← List.flatMap_cons, ← List.flatMap_append, ← hs, List.getElem_cons_drop, List.take_append_drop]
    rfl
  obtain ⟨hp, -⟩ := List.getElem?_eq_some_iff.mp h.word
  rw [hsplit, h.wordIndex, List.getElem?_append_right (Nat.le_add_right _ _), Nat.add_sub_cancel_left,
    List.getElem?_append_left hp, h.word]

/-- What is seen at the word follows from where it stands. -/
theorem context_eq (h : p.Stands t) (bindings : Entries) :
    p.context t bindings = t.viewAt bindings p.segmentIndex p.position := by
  simp only [context, Transcript.viewAt, h.segment, Option.bind_some, h.word, Option.map_some, id, h.wordIndex,
    Int.natCast_add]

end PlacedWord.Stands
end CaptionAnimation
