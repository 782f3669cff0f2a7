import CaptionAnimation.Proofs.Number.Undefined
import CaptionAnimation.Selection.Options
import CaptionAnimation.Value.Equality

/-! # Keys that are the same

Among the values that can be map keys, being the same is symmetric and transitive. It is not reflexive: an undefined
number from nowhere known is the same as no number, and neither is a key that holds one. -/
namespace CaptionAnimation

namespace Exact

theorem eq_symm {a b : Exact} (h : a.eq b = true) : b.eq a = true := by
  cases a <;> cases b <;> simp_all [eq]

theorem eq_trans {a b c : Exact} (hab : a.eq b = true) (hbc : b.eq c = true) : a.eq c = true := by
  cases a <;> cases b <;> simp_all [eq]

theorem undefined_eq (a : Exact) : undefined.eq a = false := by cases a <;> rfl

end Exact

/-! ## Numbers -/

namespace Quantity

theorem sameUndefined_iff {p q : Quantity} : p.sameUndefined q = true ↔
    p.value.isNaN = true ∧ q.value.isNaN = true ∧ p.origin.isSome = true ∧ p.origin = q.origin := by
  simp [sameUndefined, and_assoc]

theorem sameUndefined_symm {p q : Quantity} (h : p.sameUndefined q = true) : q.sameUndefined p = true := by
  obtain ⟨hp, hq, hsome, horigin⟩ := sameUndefined_iff.mp h
  exact sameUndefined_iff.mpr ⟨hq, hp, horigin ▸ hsome, horigin.symm⟩

theorem sameUndefined_trans {p q r : Quantity} (hpq : p.sameUndefined q = true) (hqr : q.sameUndefined r = true) :
    p.sameUndefined r = true := by
  obtain ⟨hp, -, hsome, hpo⟩ := sameUndefined_iff.mp hpq
  obtain ⟨-, hr, -, hro⟩ := sameUndefined_iff.mp hqr
  exact sameUndefined_iff.mpr ⟨hp, hr, hsome, hpo.trans hro⟩

end Quantity

namespace Number

theorem eq_symm {a b : Number} (h : a.eq b = true) : b.eq a = true := Exact.eq_symm h

theorem eq_trans {a b c : Number} (hab : a.eq b = true) (hbc : b.eq c = true) : a.eq c = true :=
  Exact.eq_trans hab hbc

/-- An undefined number equals nothing. -/
theorem eq_of_isNaN {q : Quantity} (h : q.value.isNaN = true) (a : Number) : (double q).eq a = false := by
  show (Exact.ofDouble (Double.ofFloat q.value)).eq a.exact = false
  rw [Double.ofFloat_of_isNaN h]
  exact Exact.undefined_eq _

/-- Numbers are the same when they are equal or are one undefined number. -/
theorem same_iff {a b : Number} : a.same b = true ↔
    a.eq b = true ∨ ∃ p q, a = double p ∧ b = double q ∧ p.sameUndefined q = true := by
  cases a <;> cases b <;> simp [same]

theorem same_symm {a b : Number} (h : a.same b = true) : b.same a = true := by
  rcases same_iff.mp h with he | ⟨p, q, rfl, rfl, hu⟩
  · exact same_iff.mpr (.inl (eq_symm he))
  · exact same_iff.mpr (.inr ⟨q, p, rfl, rfl, Quantity.sameUndefined_symm hu⟩)

theorem same_trans {a b c : Number} (hab : a.same b = true) (hbc : b.same c = true) : a.same c = true := by
  rcases same_iff.mp hab with he | ⟨p, q, rfl, rfl, hu⟩
  · rcases same_iff.mp hbc with he' | ⟨q, r, rfl, rfl, hu'⟩
    · exact same_iff.mpr (.inl (eq_trans he he'))
    · have hnan := (Quantity.sameUndefined_iff.mp hu').1
      exact absurd (eq_symm he) (Bool.eq_false_iff.mp (eq_of_isNaN hnan a))
  · rcases same_iff.mp hbc with he' | ⟨q', r, hq, rfl, hu'⟩
    · have hnan := (Quantity.sameUndefined_iff.mp hu).2.1
      exact absurd he' (Bool.eq_false_iff.mp (eq_of_isNaN hnan c))
    · obtain rfl := Number.double.inj hq
      exact same_iff.mpr (.inr ⟨p, r, rfl, rfl, Quantity.sameUndefined_trans hu hu'⟩)

theorem sameAs_iff {n : Number} {v : Value} : n.sameAs v = true ↔ ∃ m, v.comparable? = some m ∧ n.same m = true := by
  cases v with
  | bool b => cases n <;> simp [sameAs, Value.comparable?, same]
  | number m => simp [sameAs, Value.comparable?]
  | _ => simp [sameAs, Value.comparable?]

end Number

/-! ## Values -/

namespace Value

/-- What counts as a number is the same as what counts as the same number. -/
theorem same_of_comparable {v : Value} {n : Number} (hv : v.comparable? = some n) (w : Value) :
    v.same w = n.sameAs w := by
  cases v with
  | bool b =>
    obtain rfl := Option.some.inj hv
    rw [same]
  | number m =>
    obtain rfl := Option.some.inj hv
    rw [same]
  | _ => cases hv

theorem same_symm_of_comparable {v w : Value} {n : Number} (hv : v.comparable? = some n) (h : v.same w = true) :
    w.same v = true := by
  rw [same_of_comparable hv] at h
  obtain ⟨m, hm, hs⟩ := Number.sameAs_iff.mp h
  rw [same_of_comparable hm]
  exact Number.sameAs_iff.mpr ⟨n, hv, Number.same_symm hs⟩

theorem same_trans_of_comparable {u v w : Value} {n : Number} (hu : u.comparable? = some n) (huv : u.same v = true)
    (hvw : v.same w = true) : u.same w = true := by
  rw [same_of_comparable hu] at huv ⊢
  obtain ⟨m, hm, hs⟩ := Number.sameAs_iff.mp huv
  rw [same_of_comparable hm] at hvw
  obtain ⟨k, hk, hs'⟩ := Number.sameAs_iff.mp hvw
  exact Number.sameAs_iff.mpr ⟨k, hk, Number.same_trans hs hs'⟩

/-- A value that can be a key of a map. -/
def IsKey (v : Value) : Prop := v.unkeyable = none

@[simp]
theorem not_isKey_list (items : List Value) : ¬ (list items).IsKey := by simp [IsKey, unkeyable]

@[simp]
theorem not_isKey_map (entries : Entries) : ¬ (map entries).IsKey := by simp [IsKey, unkeyable]

@[simp]
theorem not_isKey_readOnly (entries : Entries) : ¬ (readOnly entries).IsKey := by simp [IsKey, unkeyable]

@[simp]
theorem not_isKey_word (w : Word) : ¬ (word w).IsKey := by simp [IsKey, unkeyable, Word.unkeyable]

@[simp]
theorem not_isKey_segment (s : Segment) : ¬ (segment s).IsKey := by
  cases s
  simp [IsKey, unkeyable, Segment.unkeyable]

@[simp]
theorem not_isKey_transcript (t : Transcript) : ¬ (transcript t).IsKey := by
  cases t
  simp [IsKey, unkeyable, Transcript.unkeyable]

theorem unkeyableItem_cons {x : Value} {xs : List Value} (h : unkeyableItem (x :: xs) = none) :
    x.IsKey ∧ unkeyableItem xs = none := by
  rwa [unkeyableItem, Option.or_eq_none_iff] at h

theorem unkeyableField_cons {name : String} {v : Value} {fs : List (String × Value)}
    (h : unkeyableField ((name, v) :: fs) = none) : v.IsKey ∧ unkeyableField fs = none := by
  rwa [unkeyableField, Option.or_eq_none_iff] at h

mutual

theorem same_symm : (v : Value) → v.IsKey → (w : Value) → v.same w = true → w.same v = true
  | .null, _, w, h => by cases w <;> simp_all [same]
  | .bool b, _, _, h => same_symm_of_comparable rfl h
  | .number n, _, _, h => same_symm_of_comparable rfl h
  | .text s, _, w, h => by
    cases w with
    | text t =>
      rw [same, beq_iff_eq] at h ⊢
      exact h.symm
    | _ => simp [same] at h
  | .tuple xs, hk, w, h => by
    cases w with
    | tuple ys =>
      rw [same] at h ⊢
      exact sameItems_symm xs (by rwa [IsKey, unkeyable] at hk) ys h
    | _ => simp [same] at h
  | .object type fs, hk, w, h => by
    cases w with
    | object type' gs =>
      rw [same, Bool.and_eq_true, beq_iff_eq] at h ⊢
      exact ⟨h.1.symm, sameFields_symm fs (by rwa [IsKey, unkeyable] at hk) gs h.2⟩
    | _ => simp [same] at h
  | .list _, hk, _, _ | .map _, hk, _, _ | .readOnly _, hk, _, _ | .word _, hk, _, _ | .segment _, hk, _, _
  | .transcript _, hk, _, _ => by simp at hk

theorem sameItems_symm : (xs : List Value) → unkeyableItem xs = none → (ys : List Value) →
    sameItems xs ys = true → sameItems ys xs = true
  | [], _, ys, h => by cases ys <;> simp_all [sameItems]
  | x :: xs, hk, [], h => by simp [sameItems] at h
  | x :: xs, hk, y :: ys, h => by
    obtain ⟨hx, hxs⟩ := unkeyableItem_cons hk
    rw [sameItems, Bool.and_eq_true] at h ⊢
    exact ⟨same_symm x hx y h.1, sameItems_symm xs hxs ys h.2⟩

theorem sameFields_symm : (fs : List (String × Value)) → unkeyableField fs = none → (gs : List (String × Value)) →
    sameFields fs gs = true → sameFields gs fs = true
  | [], _, gs, h => by cases gs <;> simp_all [sameFields]
  | _ :: _, _, [], h => by simp [sameFields] at h
  | (name, v) :: fs, hk, (name', w) :: gs, h => by
    obtain ⟨hv, hfs⟩ := unkeyableField_cons hk
    simp only [sameFields, Bool.and_eq_true, beq_iff_eq] at h ⊢
    exact ⟨⟨h.1.1.symm, same_symm v hv w h.1.2⟩, sameFields_symm fs hfs gs h.2⟩

end

mutual

theorem same_trans : (u : Value) → u.IsKey → (v w : Value) → u.same v = true → v.same w = true → u.same w = true
  | .null, _, v, w, huv, hvw => by cases v <;> simp_all [same]
  | .bool b, _, _, _, huv, hvw => same_trans_of_comparable rfl huv hvw
  | .number n, _, _, _, huv, hvw => same_trans_of_comparable rfl huv hvw
  | .text s, _, v, w, huv, hvw => by
    cases v with
    | text t =>
      rw [same, beq_iff_eq] at huv
      rwa [huv]
    | _ => simp [same] at huv
  | .tuple xs, hk, v, w, huv, hvw => by
    cases v with
    | tuple ys =>
      cases w with
      | tuple zs =>
        rw [same] at huv hvw ⊢
        exact sameItems_trans xs (by rwa [IsKey, unkeyable] at hk) ys zs huv hvw
      | _ => simp [same] at hvw
    | _ => simp [same] at huv
  | .object type fs, hk, v, w, huv, hvw => by
    cases v with
    | object type' gs =>
      cases w with
      | object type'' hs =>
        rw [same, Bool.and_eq_true, beq_iff_eq] at huv hvw ⊢
        exact ⟨huv.1.trans hvw.1, sameFields_trans fs (by rwa [IsKey, unkeyable] at hk) gs hs huv.2 hvw.2⟩
      | _ => simp [same] at hvw
    | _ => simp [same] at huv
  | .list _, hk, _, _, _, _ | .map _, hk, _, _, _, _ | .readOnly _, hk, _, _, _, _ | .word _, hk, _, _, _, _
  | .segment _, hk, _, _, _, _ | .transcript _, hk, _, _, _, _ => by simp at hk

theorem sameItems_trans : (xs : List Value) → unkeyableItem xs = none → (ys zs : List Value) →
    sameItems xs ys = true → sameItems ys zs = true → sameItems xs zs = true
  | [], _, ys, zs, hxy, hyz => by cases ys <;> simp_all [sameItems]
  | _ :: _, _, [], _, hxy, _ => by simp [sameItems] at hxy
  | _ :: _, _, _ :: _, [], _, hyz => by simp [sameItems] at hyz
  | x :: xs, hk, y :: ys, z :: zs, hxy, hyz => by
    obtain ⟨hx, hxs⟩ := unkeyableItem_cons hk
    rw [sameItems, Bool.and_eq_true] at hxy hyz ⊢
    exact ⟨same_trans x hx y z hxy.1 hyz.1, sameItems_trans xs hxs ys zs hxy.2 hyz.2⟩

theorem sameFields_trans : (fs : List (String × Value)) → unkeyableField fs = none →
    (gs hs : List (String × Value)) → sameFields fs gs = true → sameFields gs hs = true → sameFields fs hs = true
  | [], _, gs, hs, hfg, hgh => by cases gs <;> simp_all [sameFields]
  | _ :: _, _, [], _, hfg, _ => by simp [sameFields] at hfg
  | _ :: _, _, _ :: _, [], _, hgh => by simp [sameFields] at hgh
  | (name, u) :: fs, hk, (name', v) :: gs, (name'', w) :: hs, hfg, hgh => by
    obtain ⟨hu, hfs⟩ := unkeyableField_cons hk
    simp only [sameFields, Bool.and_eq_true, beq_iff_eq] at hfg hgh ⊢
    exact ⟨⟨hfg.1.1.trans hgh.1.1, same_trans u hu v w hfg.1.2 hgh.1.2⟩, sameFields_trans fs hfs gs hs hfg.2 hgh.2⟩

end

end Value
end CaptionAnimation
