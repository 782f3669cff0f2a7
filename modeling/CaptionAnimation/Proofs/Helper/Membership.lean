import CaptionAnimation.Helper.Standard
import CaptionAnimation.Proofs.Evaluation.Meaning
import CaptionAnimation.Proofs.Value.Sameness

/-! # Two tests for an item

The helper `contains` looks for data that are the same, and the operator `in` for a value that is equal. Both find the
same items as long as no boolean meets a number, no list a tuple, no read-only map another map, and no undefined number
itself, at the top or within the items of lists; any other two values that only one of them holds alike are of these
four kinds. -/
namespace CaptionAnimation

namespace Number

/-- The numbers are not one undefined number. -/
def unmixed : Number → Number → Bool
  | .double p, .double q => !p.sameUndefined q
  | _, _ => true

theorem same_eq_of_unmixed {m n : Number} (h : m.unmixed n = true) : m.same n = m.eq n := by
  cases m <;> cases n <;> simp_all [unmixed, same]

theorem unmixed_of_eq {m n : Number} (h : m.eq n = true) : m.unmixed n = true := by
  cases m with
  | int => rfl
  | double p =>
    cases n with
    | int => rfl
    | double q =>
      rw [unmixed, Bool.not_eq_true', Bool.eq_false_iff]
      intro hundefined
      exact absurd h (Bool.eq_false_iff.mp (eq_of_isNaN (Quantity.sameUndefined_iff.mp hundefined).1 _))

end Number

namespace Value

mutual

/-- No two values meet that the two tests treat differently: at the top, or where the items of two lists or of two
tuples meet. -/
def unmixed : Value → Value → Bool
  | .bool _, .number _ | .number _, .bool _ => false
  | .number m, .number n => m.unmixed n
  | .list xs, .list ys | .tuple xs, .tuple ys => unmixedItems xs ys
  | .list _, .tuple _ | .tuple _, .list _ => false
  | .map _, .readOnly _ | .readOnly _, .map _ => false
  | _, _ => true

def unmixedItems : List Value → List Value → Bool
  | x :: xs, y :: ys => x.unmixed y && unmixedItems xs ys
  | _, _ => true

end

mutual

/-- Unmixed values are the same when they are equal. -/
theorem same_eq_equal : (v w : Value) → v.unmixed w = true → v.same w = v.equal w
  | .number m, w, h => by
    cases w with
    | number n =>
      rw [unmixed] at h
      rw [same, Number.sameAs, equal, Number.same_eq_of_unmixed h]
    | _ => simp_all [unmixed, same, Number.sameAs, equal]
  | .list xs, w, h => by
    cases w with
    | list ys => simp [same, equal, items?, sameItems_eq_equalItems xs ys (by simpa [unmixed] using h)]
    | _ => simp_all [unmixed, same, equal, items?]
  | .tuple xs, w, h => by
    cases w with
    | tuple ys => simp [same, equal, items?, sameItems_eq_equalItems xs ys (by simpa [unmixed] using h)]
    | _ => simp_all [unmixed, same, equal, items?]
  | .bool a, w, h => by
    cases w with
    | bool b => cases a <;> cases b <;> simp [same, Number.sameAs, equal] <;> decide
    | _ => simp_all [unmixed, same, Number.sameAs, equal]
  | .null, w, h | .text _, w, h | .map _, w, h | .readOnly _, w, h | .word _, w, h | .segment _, w, h
  | .transcript _, w, h | .object _ _, w, h => by cases w <;> simp_all [unmixed, same, equal, entries?]

theorem sameItems_eq_equalItems : (xs ys : List Value) → unmixedItems xs ys = true →
    sameItems xs ys = equalItems xs ys
  | [], ys, _ => by cases ys <;> simp [sameItems, equalItems]
  | x :: xs, [], _ => by simp [sameItems, equalItems]
  | x :: xs, y :: ys, h => by
    rw [unmixedItems, Bool.and_eq_true] at h
    rw [sameItems, equalItems, same_eq_equal x y h.1, sameItems_eq_equalItems xs ys h.2]

end

mutual

/-- Values that are the same and equal are unmixed. -/
theorem unmixed_of_both : (v w : Value) → v.same w = true → v.equal w = true → v.unmixed w = true
  | .number m, w, hs, he => by
    cases w with
    | number n =>
      rw [unmixed]
      exact Number.unmixed_of_eq (by rwa [equal] at he)
    | _ => simp_all [equal]
  | .list xs, w, hs, he => by
    cases w with
    | list ys =>
      rw [unmixed]
      exact unmixedItems_of_both xs ys (by rwa [same] at hs) (by rwa [equal, items?] at he)
    | _ => simp_all [same]
  | .tuple xs, w, hs, he => by
    cases w with
    | tuple ys =>
      rw [unmixed]
      exact unmixedItems_of_both xs ys (by rwa [same] at hs) (by rwa [equal, items?] at he)
    | _ => simp_all [same]
  | .null, w, hs, he | .bool _, w, hs, he | .text _, w, hs, he | .map _, w, hs, he | .readOnly _, w, hs, he
  | .word _, w, hs, he | .segment _, w, hs, he | .transcript _, w, hs, he | .object _ _, w, hs, he => by
    cases w <;> simp_all [unmixed, equal]

theorem unmixedItems_of_both : (xs ys : List Value) → sameItems xs ys = true → equalItems xs ys = true →
    unmixedItems xs ys = true
  | [], ys, _, _ => by simp [unmixedItems]
  | x :: xs, [], _, _ => by simp [unmixedItems]
  | x :: xs, y :: ys, hs, he => by
    rw [sameItems, Bool.and_eq_true] at hs
    rw [equalItems, Bool.and_eq_true] at he
    rw [unmixedItems, unmixed_of_both x y hs.1 he.1, unmixedItems_of_both xs ys hs.2 he.2]
    rfl

end

/-- The two tests differ on mixed values only, and on no mixed values do both hold. -/
theorem same_ne_equal_iff (v w : Value) :
    v.same w ≠ v.equal w ↔ v.unmixed w = false ∧ (v.same w = true ∨ v.equal w = true) := by
  have halike := same_eq_equal v w
  have hboth := unmixed_of_both v w
  cases hs : v.same w <;> cases he : v.equal w <;> cases hu : v.unmixed w <;> simp_all

end Value

namespace Helper

variable {haystack v : Value} {xs : List Value}

theorem contains_items (h : haystack.items? = some xs) (v : Value) :
    contains [haystack, v] = .ok (.bool (xs.any v.same)) := by
  rw [contains, containsWith, h]
  rfl

end Helper

namespace Evaluation

open Expression

variable {haystack v : Value} {xs : List Value} {s : Scope}

theorem within_items (h : haystack.items? = some xs) (v : Value) :
    binaryOp .within v haystack = .ok (.bool (xs.any v.equal)) := by
  cases haystack <;> cases h <;> rfl

theorem find?_contains :
    ∃ h, Registry.standard.find? "contains" = some h ∧ h.accepts 2 = true ∧ h.run = Helper.contains :=
  ⟨_, rfl, rfl, rfl⟩

/-- A call of `contains` asks the standard helper. -/
theorem eval_contains (hs : s.helpers.find? "contains" = Registry.standard.find? "contains") {whole part : Expr}
    (hwhole : eval s whole = .ok haystack) (hpart : eval s part = .ok v) (h : haystack.items? = some xs) (pos : Nat) :
    eval s (.call pos "contains" [whole, part]) = .ok (.bool (xs.any v.same)) := by
  obtain ⟨helper, hfound, haccepts, hrun⟩ := find?_contains
  refine eval_of_meaning ?_
  replace hwhole := meaning_of_eval hwhole
  replace hpart := meaning_of_eval hpart
  have hvalues : meanings s [whole, part] = .ok [haystack, v] := by
    rw [meanings, meanings, meanings, hwhole, hpart]
    rfl
  rw [meaning, hs, hfound]
  dsimp only
  rw [if_pos (show helper.accepts [whole, part].length = true from haccepts), hvalues]
  show s.settleCall _ (helper.run [haystack, v]) = _
  rw [hrun, Helper.contains_items h]
  rfl

theorem eval_within {whole part : Expr} (hwhole : eval s whole = .ok haystack) (hpart : eval s part = .ok v)
    (h : haystack.items? = some xs) (pos : Nat) :
    eval s (.binary pos .within part whole) = .ok (.bool (xs.any v.equal)) := by
  refine eval_of_meaning ?_
  replace hwhole := meaning_of_eval hwhole
  replace hpart := meaning_of_eval hpart
  rw [meaning, hpart, hwhole]
  show s.settle _ (binaryOp .within v haystack) = _
  rw [within_items h]
  rfl

/-- As long as no mixed item meets either test, `contains` and `in` give one answer, called on values or written in an
expression. -/
theorem contains_agrees_with_within (h : haystack.items? = some xs)
    (hunmixed : ∀ x ∈ xs, v.same x = true ∨ v.equal x = true → v.unmixed x = true) :
    ∃ found : Bool, Helper.contains [haystack, v] = .ok (.bool found) ∧
      binaryOp .within v haystack = .ok (.bool found) ∧
      ∀ (s : Scope) (whole part : Expr) (pos pos' : Nat),
        s.helpers.find? "contains" = Registry.standard.find? "contains" →
        eval s whole = .ok haystack → eval s part = .ok v →
        eval s (.call pos "contains" [whole, part]) = .ok (.bool found) ∧
          eval s (.binary pos' .within part whole) = .ok (.bool found) := by
  have halike : ∀ x ∈ xs, v.same x = v.equal x := fun x hx => by
    by_contra hne
    obtain ⟨hmixed, hone⟩ := (Value.same_ne_equal_iff v x).mp hne
    rw [hunmixed x hx hone] at hmixed
    cases hmixed
  have hany : xs.any v.same = xs.any v.equal := by
    rw [Bool.eq_iff_iff, List.any_eq_true, List.any_eq_true]
    exact exists_congr fun x => and_congr_right fun hx => by rw [halike x hx]
  refine ⟨xs.any v.equal, hany ▸ Helper.contains_items h v, within_items h v, ?_⟩
  intro s whole part pos pos' hs hwhole hpart
  exact ⟨hany ▸ eval_contains hs hwhole hpart h pos, eval_within hwhole hpart h pos'⟩

theorem contains_agrees_with_within_words :
    ∃ found : Bool, Helper.contains [.tuple [.list [.text "um", .int 1], .null], .list [.text "um", .int 1]] =
        .ok (.bool found) ∧
      binaryOp .within (.list [.text "um", .int 1]) (.tuple [.list [.text "um", .int 1], .null]) =
        .ok (.bool found) := by
  have hitems : (Value.tuple [.list [.text "um", .int 1], .null]).items? = some [.list [.text "um", .int 1], .null] :=
    rfl
  obtain ⟨found, hcontains, hwithin, -⟩ :=
    contains_agrees_with_within (v := .list [.text "um", .int 1]) hitems (by decide +kernel)
  exact ⟨found, hcontains, hwithin⟩

/-- Every mixed item that meets one of the tests tells them apart. -/
theorem contains_differs_from_within {x : Value} (hmixed : v.unmixed x = false)
    (hone : v.same x = true ∨ v.equal x = true) :
    ∃ found : Bool, Helper.contains [.list [x], v] = .ok (.bool found) ∧
      binaryOp .within v (.list [x]) = .ok (.bool !found) := by
  have hne := (Value.same_ne_equal_iff v x).mpr ⟨hmixed, hone⟩
  refine ⟨v.same x, ?_, ?_⟩
  · rw [Helper.contains_items rfl, List.any_cons, List.any_nil, Bool.or_false]
  · rw [within_items rfl, List.any_cons, List.any_nil, Bool.or_false, Bool.eq_not.mpr hne.symm]

/-- A boolean is found among numbers by the helper, and not by the operator. -/
theorem boolean_among_numbers :
    evaluateText ⟨.forVariables ⟨[], [], none⟩ [], .standard⟩ (.text "contains([1], true)") = .ok (.bool true) ∧
      evaluateText ⟨.forVariables ⟨[], [], none⟩ [], .standard⟩ (.text "true in [1]") = .ok (.bool false) :=
  ⟨by cbv, by cbv⟩

end Evaluation
end CaptionAnimation
