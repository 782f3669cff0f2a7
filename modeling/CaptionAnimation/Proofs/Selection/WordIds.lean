import CaptionAnimation.Proofs.Expression.Lexing
import CaptionAnimation.Proofs.Selection.Places

/-! # The ids of words

A word without an id of its own has its segment and position for an id. Where the words' own ids are different and none
is written like a place, all words of a transcript have different ids. -/
namespace CaptionAnimation

open Text (isAsciiDigit)

/-- Digits, a hyphen, and digits. -/
def IsPlaceId (s : String) : Prop :=
  ∃ front back : List Char, front ≠ [] ∧ back ≠ [] ∧ (∀ c ∈ front ++ back, isAsciiDigit c = true) ∧
    s.toList = front ++ '-' :: back

namespace Word

variable {w : Word} {i j : Nat}

/-- The id that a word has of its own, when it is not empty. -/
def ownId? (w : Word) : Option String := w.id.filter (!·.isEmpty)

theorem idAt_eq (w : Word) (i j : Int) : w.idAt i j = w.ownId?.getD (idAt.placeId i j) := by
  unfold idAt ownId?
  cases w.id with
  | none => rfl
  | some id =>
    cases hid : id.isEmpty <;> simp [Option.filter, hid]

theorem toList_placeId (i j : Nat) :
    (idAt.placeId i j).toList = Nat.toDigits 10 i ++ '-' :: Nat.toDigits 10 j := by
  have hrepr (n : Nat) : (toString (n : Int)).toList = Nat.toDigits 10 n := by
    rw [show toString (n : Int) = n.repr from rfl, Nat.toList_repr]
  rw [idAt.placeId, String.toList_append, String.toList_append, hrepr, hrepr]
  simp

theorem isPlaceId_placeId (i j : Nat) : IsPlaceId (idAt.placeId i j) := by
  refine ⟨_, _, Nat.toDigits_ne_nil, Nat.toDigits_ne_nil, fun c hc => ?_, toList_placeId i j⟩
  rcases List.mem_append.mp hc with hc | hc <;> exact Nat.isDigit_of_mem_toDigits (by decide) (by decide) hc

theorem toDigits_inj {m n : Nat} (h : Nat.toDigits 10 m = Nat.toDigits 10 n) : m = n := by
  rw [← Nat.ofDigitChars_ten_toDigits (n := m), h, Nat.ofDigitChars_ten_toDigits]

/-- Different places are written differently. -/
theorem placeId_inj {i j i' j' : Nat} (h : idAt.placeId i j = idAt.placeId i' j') : i = i' ∧ j = j' := by
  have hdigit (n : Nat) : ∀ c ∈ Nat.toDigits 10 n, isAsciiDigit c = true := fun c hc =>
    Nat.isDigit_of_mem_toDigits (by decide) (by decide) hc
  have hhyphen (n : Nat) : ∀ c ∈ ('-' :: Nat.toDigits 10 n).head?, isAsciiDigit c = false := by
    intro c hc
    obtain rfl : '-' = c := Option.some.inj hc
    decide
  have hlist := congrArg String.toList h
  rw [toList_placeId, toList_placeId] at hlist
  have hfront := congrArg (List.takeWhile isAsciiDigit) hlist
  rw [Expression.takeWhile_append_run (hdigit i) (hhyphen j),
    Expression.takeWhile_append_run (hdigit i') (hhyphen j')] at hfront
  obtain rfl := toDigits_inj hfront
  exact ⟨rfl, toDigits_inj (List.cons.inj (List.append_cancel_left hlist)).2⟩

end Word

namespace Transcript

variable {t : Transcript}

/-- The words' own ids are different, and none is written like a place. -/
structure HasDistinctIds (t : Transcript) : Prop where
  nodup : (t.words.filterMap Word.ownId?).Nodup
  no_place : ∀ w ∈ t.words, ∀ id ∈ w.ownId?, ¬ IsPlaceId id

theorem map_word_placeWords (s : Segment) (segmentIndex position wordIndex : Nat) (words : List Word) :
    (placeWords s segmentIndex position wordIndex words).map PlacedWord.word = words := by
  induction words generalizing position wordIndex with
  | nil => rfl
  | cons w rest ih => rw [placeWords, List.map_cons, ih]

theorem map_word_placeSegments (segmentIndex wordIndex : Nat) (segments : List Segment) :
    (placeSegments segmentIndex wordIndex segments).map PlacedWord.word = segments.flatMap Segment.words := by
  induction segments generalizing segmentIndex wordIndex with
  | nil => rfl
  | cons s rest ih => rw [placeSegments, List.map_append, map_word_placeWords, ih, List.flatMap_cons]

/-- The words with their places are the words. -/
theorem map_word_placedWords (t : Transcript) : t.placedWords.map PlacedWord.word = t.words :=
  map_word_placeSegments 0 0 t.segments

theorem HasDistinctIds.ids_nodup (h : t.HasDistinctIds) : (t.placedWords.map PlacedWord.id).Nodup := by
  have hplaces : t.placedWords.Pairwise fun p q => p.wordIndex ≠ q.wordIndex :=
    List.pairwise_map.mp (t.map_wordIndex_placedWords ▸ List.nodup_range)
  have hown : t.placedWords.Pairwise fun p q => ∀ i, p.word.ownId? = some i → ∀ j, q.word.ownId? = some j → i ≠ j := by
    have hnodup := h.nodup
    rw [← map_word_placedWords, List.filterMap_map, List.Nodup, List.pairwise_filterMap] at hnodup
    exact hnodup
  have hplace : ∀ p ∈ t.placedWords, ∀ id, p.word.ownId? = some id → ¬ IsPlaceId id := fun p hp =>
    h.no_place _ (t.map_word_placedWords ▸ List.mem_map_of_mem hp)
  rw [List.Nodup, List.pairwise_map]
  refine (hplaces.and hown).imp_of_mem fun {p q} hp hq hpq heq => ?_
  rw [PlacedWord.id, PlacedWord.id, Word.idAt_eq, Word.idAt_eq] at heq
  -- given ids are distinct, none of them is the id of a place, and places are distinct
  cases hi : p.word.ownId? with
  | some i =>
    cases hj : q.word.ownId? with
    | some j =>
      rw [hi, hj] at heq
      exact hpq.2 i hi j hj heq
    | none =>
      rw [hi, hj] at heq
      obtain rfl : i = _ := heq
      exact hplace p hp _ hi (Word.isPlaceId_placeId _ _)
  | none =>
    cases hj : q.word.ownId? with
    | some j =>
      rw [hi, hj] at heq
      obtain rfl : _ = j := heq
      exact hplace q hq _ hj (Word.isPlaceId_placeId _ _)
    | none =>
      rw [hi, hj] at heq
      obtain ⟨hsegment, hposition⟩ := Word.placeId_inj heq
      exact hpq.1 (by rw [(stands_of_mem hp).wordIndex, (stands_of_mem hq).wordIndex, hsegment, hposition])

/-! ## Placed transcripts -/

theorem map_id_placeWords (s s' : Segment) (place : Origin) (index segmentIndex position wordIndex : Nat)
    (words : List Word) :
    (placeWords s segmentIndex position wordIndex (CaptionAnimation.placedWords place index words)).map PlacedWord.id =
      (placeWords s' segmentIndex position wordIndex words).map PlacedWord.id := by
  induction words generalizing index position wordIndex with
  | nil => rfl
  | cons w rest ih =>
    have hid : (w.placed (index :: place)).id = w.id := by cases w; rfl
    simp only [CaptionAnimation.placedWords, placeWords, List.map_cons, ih, PlacedWord.id, Word.idAt, hid]

theorem length_placedWords (place : Origin) (index : Nat) (words : List Word) :
    (CaptionAnimation.placedWords place index words).length = words.length := by
  induction words generalizing index with
  | nil => rfl
  | cons w rest ih => simp only [CaptionAnimation.placedWords, List.length_cons, ih]

theorem map_id_placeSegments (place : Origin) (index segmentIndex wordIndex : Nat) (segments : List Segment) :
    (placeSegments segmentIndex wordIndex (placedSegments place index segments)).map PlacedWord.id =
      (placeSegments segmentIndex wordIndex segments).map PlacedWord.id := by
  induction segments generalizing index segmentIndex wordIndex with
  | nil => rfl
  | cons s rest ih =>
    have hwords : (s.placed (index :: place)).words = CaptionAnimation.placedWords (0 :: index :: place) 0 s.words := by
      cases s; rfl
    simp only [placedSegments, placeSegments, List.map_append, hwords, length_placedWords, ih]
    rw [map_id_placeWords _ s]

/-- Telling undefined numbers their places leaves the ids of words. -/
theorem map_id_placed (t : Transcript) :
    t.placed.placedWords.map PlacedWord.id = t.placedWords.map PlacedWord.id := by
  cases t
  exact map_id_placeSegments [0, 0] 0 0 0 _

end Transcript
end CaptionAnimation
