import CaptionAnimation.Evaluation.Operators
import CaptionAnimation.Proofs.Value.Regular
import Mathlib.Data.List.Perm.Subperm

/-! # Equality is an equivalence

Among regular values, sameness of data is an equivalence, and so is the `==` of expressions, which is built on it. Both
are shown part by part, with reflexivity, symmetry and transitivity at once: to find the entries of one map in another
and back, keys must be the same in either order, and two keys that are the same as a third the same as each other.
Entries of maps pair off, and between maps of one size they do so in both directions or in neither. -/
namespace CaptionAnimation

namespace Value

variable {r : Value → Value → Bool} {u v w : Value} {xs ys : List Value} {es fs gs : Entries}

/-- Among regular values a comparison with this one is an equivalence. -/
structure Steady (r : Value → Value → Bool) (u : Value) : Prop where
  refl : r u u = true
  comm : ∀ v, v.Regular → r u v = r v u
  congr : ∀ v, v.Regular → r u v = true → ∀ w, r u w = r v w

/-! ## Items one by one -/

theorem isEqv_refl (hxs : ∀ x ∈ xs, Steady r x) : xs.isEqv xs r = true := by
  induction xs with
  | nil => rfl
  | cons x xs ih =>
    rw [List.isEqv, (hxs x List.mem_cons_self).refl, ih fun y hy => hxs y (List.mem_cons_of_mem _ hy)]
    rfl

theorem isEqv_comm (hxs : ∀ x ∈ xs, Steady r x) (hys : ∀ y ∈ ys, Regular y) : xs.isEqv ys r = ys.isEqv xs r := by
  induction xs generalizing ys with
  | nil => cases ys <;> rfl
  | cons x xs ih =>
    cases ys with
    | nil => rfl
    | cons y ys =>
      rw [List.isEqv, List.isEqv, (hxs x List.mem_cons_self).comm y (hys y List.mem_cons_self),
        ih (fun z hz => hxs z (List.mem_cons_of_mem _ hz)) fun z hz => hys z (List.mem_cons_of_mem _ hz)]

theorem isEqv_congr (hxs : ∀ x ∈ xs, Steady r x) (hys : ∀ y ∈ ys, Regular y) (h : xs.isEqv ys r = true)
    (zs : List Value) : xs.isEqv zs r = ys.isEqv zs r := by
  induction xs generalizing ys zs with
  | nil =>
    cases ys with
    | nil => rfl
    | cons y ys => cases h
  | cons x xs ih =>
    cases ys with
    | nil => cases h
    | cons y ys =>
      obtain ⟨hxy, hmore⟩ := Bool.and_eq_true_iff.mp h
      cases zs with
      | nil => rfl
      | cons z zs =>
        rw [List.isEqv, List.isEqv, (hxs x List.mem_cons_self).congr y (hys y List.mem_cons_self) hxy z,
          ih (fun z hz => hxs z (List.mem_cons_of_mem _ hz)) (fun z hz => hys z (List.mem_cons_of_mem _ hz)) hmore zs]

/-! ## Entries in any order -/

/-- Of two lists of one length, when each item of the first has a partner in the second and no two of them share one,
each item of the second is a partner. -/
theorem exists_partner {α β : Type} {R : α → β → Prop} {as : List α} {bs : List β} (hlength : as.length = bs.length)
    (hunshared : as.Pairwise fun a a' => ∀ b ∈ bs, R a b → ¬ R a' b) (h : ∀ a ∈ as, ∃ b ∈ bs, R a b) :
    ∀ b ∈ bs, ∃ a ∈ as, R a b := by
  intro b hb
  have : Nonempty β := ⟨b⟩
  choose! partner hpartner using h
  have hnodup : (as.map partner).Nodup := by
    refine List.pairwise_map.mpr (hunshared.imp_of_mem fun {a a'} ha ha' hne heq => ?_)
    exact hne _ (hpartner a ha).1 (hpartner a ha).2 (heq ▸ (hpartner a' ha').2)
  have hsubset : as.map partner ⊆ bs := by
    intro c hc
    obtain ⟨a, ha, rfl⟩ := List.mem_map.mp hc
    exact (hpartner a ha).1
  have hperm := (List.subperm_of_subset hnodup hsubset).perm_of_length_le (by simp [hlength])
  obtain ⟨a, ha, rfl⟩ := List.mem_map.mp (hperm.mem_iff.mpr hb)
  exact ⟨a, ha, (hpartner a ha).2⟩

/-- Same keys with same values. -/
def SameEntry (e f : Value × Value) : Prop := e.1.same f.1 = true ∧ e.2.same f.2 = true

theorem Distinct.eq {e f : Value × Value} (h : Distinct es) (he : e ∈ es) (hf : f ∈ es) (hef : e.1.same f.1 = true)
    (hfe : f.1.same e.1 = true) : e = f := by
  have hpairwise : es.Pairwise fun e f => ¬ (e.1.same f.1 = true ∧ f.1.same e.1 = true) :=
    h.imp fun hne hboth => by simp [hne] at hboth
  have : Std.Symm fun e f : Value × Value => ¬ (e.1.same f.1 = true ∧ f.1.same e.1 = true) :=
    ⟨fun _ _ hnot hboth => hnot hboth.symm⟩
  by_contra hne
  exact hpairwise.forall he hf hne ⟨hef, hfe⟩

/-- An entry that is the only one with its key is the one that is found. -/
theorem heldBy_of_mem {e f : Value × Value} (hf : f ∈ fs) (h : SameEntry e f)
    (honly : ∀ g ∈ fs, e.1.same g.1 = true → g = f) : heldBy fs e = true := by
  have hfound : List.find? (fun g => e.1.same g.1) fs = some f := by
    cases hg : List.find? (fun g => e.1.same g.1) fs with
    | none => exact absurd h.1 (List.find?_eq_none.mp hg f hf)
    | some g => rw [honly g (List.mem_of_find?_eq_some hg) (by simpa using List.find?_some hg)]
  rw [heldBy, hfound]
  exact h.2

theorem exists_of_heldBy {e : Value × Value} (h : heldBy fs e = true) : ∃ f ∈ fs, SameEntry e f := by
  unfold heldBy at h
  split at h
  · next f hf => exact ⟨f, List.mem_of_find?_eq_some hf, by simpa using List.find?_some hf, h⟩
  · cases h

theorem Steady.same_of_same (hu : Steady same u) (hv : Steady same v) (hw : w.Regular) (huw : u.same w = true)
    (hvw : v.same w = true) : u.same v = true := by
  rw [hu.congr w hw huw, ← hv.comm w hw, hvw]

theorem Steady.same_of_both (hu : Steady same u) (hv : v.Regular) (huv : u.same v = true) (huw : u.same w = true) :
    v.same w = true := by
  rw [← hu.congr v hv huv, huw]

/-- Same entries are held by the same maps. -/
theorem heldBy_congr {e f : Value × Value} (he : Steady same e.1 ∧ Steady same e.2) (hf : f.1.Regular ∧ f.2.Regular)
    (h : SameEntry e f) (gs : Entries) : heldBy gs e = heldBy gs f := by
  have hkey : (fun g : Value × Value => e.1.same g.1) = fun g => f.1.same g.1 :=
    funext fun g => he.1.congr f.1 hf.1 h.1 g.1
  unfold heldBy
  rw [hkey]
  split
  · exact he.2.congr f.2 hf.2 h.2 _
  · rfl

section Maps

variable (hes : ∀ e ∈ es, Steady same e.1 ∧ Steady same e.2) (hfs : ∀ f ∈ fs, f.1.Regular ∧ f.2.Regular)

include hes hfs

theorem all_heldBy_iff (hdistinct : Distinct fs) :
    es.all (heldBy fs) = true ↔ ∀ e ∈ es, ∃ f ∈ fs, SameEntry e f := by
  refine List.all_eq_true.trans (forall₂_congr fun e he => ⟨exists_of_heldBy, ?_⟩)
  rintro ⟨f, hf, hef⟩
  refine heldBy_of_mem hf hef fun g hg heg => ?_
  exact hdistinct.eq hg hf ((hes e he).1.same_of_both (hfs g hg).1 heg hef.1)
    ((hes e he).1.same_of_both (hfs f hf).1 hef.1 heg)

theorem all_heldBy_iff' (hdistinct : Distinct es) :
    fs.all (heldBy es) = true ↔ ∀ f ∈ fs, ∃ e ∈ es, SameEntry e f := by
  have hcomm : ∀ f ∈ fs, ∀ e ∈ es, SameEntry f e ↔ SameEntry e f := fun f hf e he => by
    rw [SameEntry, SameEntry, (hes e he).1.comm f.1 (hfs f hf).1, (hes e he).2.comm f.2 (hfs f hf).2]
  refine List.all_eq_true.trans (forall₂_congr fun f hf => ⟨fun h => ?_, ?_⟩)
  · obtain ⟨e, he, hfe⟩ := exists_of_heldBy h
    exact ⟨e, he, (hcomm f hf e he).mp hfe⟩
  · rintro ⟨e, he, hef⟩
    refine heldBy_of_mem he ((hcomm f hf e he).mpr hef) fun e' he' hfe' => ?_
    rw [← (hes e' he').1.comm f.1 (hfs f hf).1] at hfe'
    exact hdistinct.eq he' he ((hes e' he').1.same_of_same (hes e he).1 (hfs f hf).1 hfe' hef.1)
      ((hes e he).1.same_of_same (hes e' he').1 (hfs f hf).1 hef.1 hfe')

/-- Of two maps of one size, the first has partners for all its entries when the second does. -/
theorem forall_exists_sameEntry_iff (hdistinct : Distinct es) (hdistinct' : Distinct fs)
    (hlength : es.length = fs.length) :
    (∀ e ∈ es, ∃ f ∈ fs, SameEntry e f) ↔ ∀ f ∈ fs, ∃ e ∈ es, SameEntry e f := by
  constructor
  · refine exists_partner hlength (hdistinct.imp_of_mem fun {e e'} he he' hne f hf hef hef' => ?_)
    rw [(hes e he).1.same_of_same (hes e' he').1 (hfs f hf).1 hef.1 hef'.1] at hne
    cases hne
  · refine exists_partner hlength.symm (hdistinct'.imp_of_mem fun {f f'} hf hf' hne e he hef hef' => ?_)
    rw [(hes e he).1.same_of_both (hfs f hf).1 hef.1 hef'.1] at hne
    cases hne

/-- Maps whose entries pair off are held by the same maps. -/
theorem all_heldBy_congr (h : ∀ e ∈ es, ∃ f ∈ fs, SameEntry e f) (h' : ∀ f ∈ fs, ∃ e ∈ es, SameEntry e f)
    (gs : Entries) : es.all (heldBy gs) = true ↔ fs.all (heldBy gs) = true := by
  rw [List.all_eq_true, List.all_eq_true]
  constructor
  · intro hall f hf
    obtain ⟨e, he, hef⟩ := h' f hf
    rw [← heldBy_congr (hes e he) (hfs f hf) hef, hall e he]
  · intro hall e he
    obtain ⟨f, hf, hef⟩ := h e he
    rw [heldBy_congr (hes e he) (hfs f hf) hef, hall f hf]

end Maps

/-! ## Sameness is an equivalence -/

theorem steady_of_comparable {n : Number} (hu : u.comparable? = some n) (hsound : u.Sound) : Steady same u where
  refl := by
    rw [same_of_comparable hu]
    exact Number.sameAs_iff.mpr ⟨n, hu, Number.same_iff.mpr (.inl (hsound.eq_self hu))⟩
  comm v _ := Bool.eq_iff_iff.mpr ⟨same_symm_of_comparable hu, fun h => by
    obtain ⟨m, hm⟩ := comparable_of_same hu h
    exact same_symm_of_comparable hm h⟩
  congr v _ h w := by
    have hvu := same_symm_of_comparable hu h
    obtain ⟨m, hm⟩ := comparable_of_same hu hvu
    exact Bool.eq_iff_iff.mpr ⟨same_trans_of_comparable hm hvu, same_trans_of_comparable hu h⟩

theorem steady_of_outline {s : Outline} (hu : u.outline? = some s) (hparts : ∀ x ∈ u.parts, Steady same x) :
    Steady same u where
  refl := (same_of_outline hu u).mpr ⟨hu, isEqv_refl hparts⟩
  comm v hv := by
    have hback : v.outline? = some s → u.same v = v.same u := fun houtline => by
      rw [Bool.eq_iff_iff, same_of_outline hu, same_of_outline houtline, isEqv_comm hparts hv.parts, hu, houtline]
    rw [Bool.eq_iff_iff]
    constructor
    · intro h
      rwa [← hback ((same_of_outline hu v).mp h).1]
    · intro h
      rwa [hback (outline_of_same hu h)]
  congr v hv h w := by
    obtain ⟨houtline, hsame⟩ := (same_of_outline hu v).mp h
    rw [Bool.eq_iff_iff, same_of_outline hu, same_of_outline houtline, isEqv_congr hparts hv.parts hsame]

/-- The entries of a regular map are regular. -/
theorem Regular.entries (h : u.Regular) (hu : u.entries? = some es) :
    Distinct es ∧ ∀ e ∈ es, e.1.Regular ∧ e.2.Regular := by
  refine ⟨?_, fun e he => ⟨h.parts _ (mem_parts_of_entries hu he).1, h.parts _ (mem_parts_of_entries hu he).2⟩⟩
  have hsound := h.sound
  cases u <;> cases hu <;> exact hsound

theorem steady_of_entries (hregular : u.Regular) (hu : u.entries? = some es)
    (hparts : ∀ x ∈ u.parts, Steady same x) : Steady same u := by
  have hes : ∀ e ∈ es, Steady same e.1 ∧ Steady same e.2 := fun e he =>
    ⟨hparts _ (mem_parts_of_entries hu he).1, hparts _ (mem_parts_of_entries hu he).2⟩
  have hdistinct := (hregular.entries hu).1
  -- Only the entries on the left are known to be steady, so that both directions are counted from there.
  have hforth : ∀ v fs, v.Regular → v.entries? = some fs →
      (u.same v = true ↔ es.length = fs.length ∧ ∀ e ∈ es, ∃ f ∈ fs, SameEntry e f) := fun v fs hv hfs => by
    obtain ⟨hdistinct', hregular'⟩ := hv.entries hfs
    rw [same_iff_of_entries hu hfs, all_heldBy_iff hes hregular' hdistinct']
  have hback : ∀ v fs, v.Regular → v.entries? = some fs → u.same v = v.same u := fun v fs hv hfs => by
    obtain ⟨hdistinct', hregular'⟩ := hv.entries hfs
    rw [Bool.eq_iff_iff, hforth v fs hv hfs, same_iff_of_entries hfs hu, all_heldBy_iff' hes hregular' hdistinct,
      eq_comm (a := fs.length)]
    exact and_congr_right fun hlength => forall_exists_sameEntry_iff hes hregular' hdistinct hdistinct' hlength
  refine ⟨(hforth u es hregular hu).mpr ⟨rfl, fun e he => ⟨e, he, (hes e he).1.refl, (hes e he).2.refl⟩⟩, ?_, ?_⟩
  · intro v hv
    rw [Bool.eq_iff_iff]
    constructor
    · intro h
      obtain ⟨fs, hfs, -⟩ := (same_of_entries hu v).mp h
      rwa [← hback v fs hv hfs]
    · intro h
      obtain ⟨fs, hfs⟩ := entries_of_same hu h
      rwa [hback v fs hv hfs]
  · intro v hv h w
    obtain ⟨fs, hfs, -⟩ := (same_of_entries hu v).mp h
    obtain ⟨hdistinct', hregular'⟩ := hv.entries hfs
    obtain ⟨hlength, hpairs⟩ := (hforth v fs hv hfs).mp h
    have hpairs' := (forall_exists_sameEntry_iff hes hregular' hdistinct hdistinct' hlength).mp hpairs
    rw [Bool.eq_iff_iff, same_of_entries hu, same_of_entries hfs]
    simp only [hlength, all_heldBy_congr hes hregular' hpairs hpairs']

theorem Regular.steady (h : u.Regular) : Steady same u := by
  induction h with
  | @intro u hsound hparts ih =>
    rcases u.comparable_or_outline_or_entries with ⟨n, hu⟩ | ⟨s, hu⟩ | ⟨es, hu⟩
    · exact steady_of_comparable hu hsound
    · exact steady_of_outline hu ih
    · exact steady_of_entries (.intro hsound hparts) hu ih

/-! ## Equality of expressions is an equivalence -/

/-- A list and what is no list are not equal either way. -/
theorem equal_comm_of_items (hu : u.Sound) (hv : v.Sound) (h : u.items?.isSome ≠ v.items?.isSome) :
    u.equal v = v.equal u :=
  Bool.eq_iff_iff.mpr
    ⟨fun he => absurd (items_of_equal hu he) h, fun he => absurd (items_of_equal hv he).symm h⟩

theorem steady_equal_of_items (hregular : u.Regular) (hu : u.items? = some xs) (hxs : ∀ x ∈ xs, Steady equal x) :
    Steady equal u where
  refl := (equal_of_items hu u).mpr ⟨xs, hu, isEqv_refl hxs⟩
  comm v hv := by
    cases hys : v.items? with
    | none => exact equal_comm_of_items hregular.sound hv.sound (by simp [hu, hys])
    | some ys =>
      have hregular' : ∀ y ∈ ys, y.Regular := parts_of_items hys ▸ hv.parts
      rw [Bool.eq_iff_iff, equal_of_items hu, equal_of_items hys, hu, hys]
      simp only [Option.some.injEq, exists_eq_left', isEqv_comm hxs hregular']
  congr v hv h w := by
    obtain ⟨ys, hys, hsame⟩ := (equal_of_items hu v).mp h
    have hregular' : ∀ y ∈ ys, y.Regular := parts_of_items hys ▸ hv.parts
    rw [Bool.eq_iff_iff, equal_of_items hu, equal_of_items hys]
    simp only [isEqv_congr hxs hregular' hsame]

theorem steady_equal_of_not_items (hregular : u.Regular) (hu : u.items? = none) : Steady equal u where
  refl := (equal_of_not_items hu hregular.sound u).mpr ⟨rfl, hregular.steady.refl⟩
  comm v hv := by
    cases hys : v.items? with
    | none =>
      rw [Bool.eq_iff_iff, equal_of_not_items hu hregular.sound, equal_of_not_items hys hv.sound,
        eq_comm (a := u.mark), hregular.steady.comm v hv]
    | some ys => exact equal_comm_of_items hregular.sound hv.sound (by simp [hu, hys])
  congr v hv h w := by
    obtain ⟨hmark, hsame⟩ := (equal_of_not_items hu hregular.sound v).mp h
    have hys : v.items? = none := by simpa [hu] using items_of_equal hregular.sound h
    rw [Bool.eq_iff_iff, equal_of_not_items hu hregular.sound, equal_of_not_items hys hv.sound, hmark,
      hregular.steady.congr v hv hsame w]

theorem Regular.steady_equal (h : u.Regular) : Steady equal u := by
  induction h with
  | @intro u hsound hparts ih =>
    cases hu : u.items? with
    | none => exact steady_equal_of_not_items (.intro hsound hparts) hu
    | some xs => exact steady_equal_of_items (.intro hsound hparts) hu (parts_of_items hu ▸ ih)

/-! ## What equality decides -/

theorem isZero_of_eq {m n : Number} (h : m.eq n = true) : m.isZero = n.isZero :=
  Bool.eq_iff_iff.mpr ⟨Number.eq_trans (Number.eq_symm h), Number.eq_trans h⟩

theorem isEmpty_of_isEqv (h : xs.isEqv ys r = true) : xs.isEmpty = ys.isEmpty := by
  cases xs <;> cases ys <;> simp_all [List.isEqv]

theorem isEmpty_of_same (hu : u.entries? = some es) (hv : v.entries? = some fs) (h : u.same v = true) :
    es.isEmpty = fs.isEmpty := by
  have hlength := ((same_iff_of_entries hu hv).mp h).1
  cases es <;> cases fs <;> simp_all

/-- Equal values are true alike. -/
theorem truthy_of_equal (h : u.equal v = true) : u.truthy = v.truthy := by
  cases u with
  | list xs | tuple xs =>
    obtain ⟨ys, hv, hsame⟩ := (equal_of_items rfl v).mp h
    have hempty := isEmpty_of_isEqv hsame
    cases v <;> cases hv <;> simp only [truthy, hempty]
  | number m =>
    cases v with
    | number n => rw [truthy, truthy, isZero_of_eq (by simpa [equal] using h)]
    | _ => simp [equal] at h
  | map es =>
    cases v with
    | map fs => rw [truthy, truthy, isEmpty_of_same rfl rfl (by rwa [equal] at h)]
    | _ => simp [equal] at h
  | readOnly es =>
    cases v with
    | readOnly fs => rw [truthy, truthy, isEmpty_of_same (u := .map es) (v := .map fs) rfl rfl (by rwa [equal] at h)]
    | _ => simp [equal] at h
  | _ => cases v <;> simp_all [equal, truthy]

end Value

namespace Evaluation

open Value

/-- Equality of expressions is an equivalence among regular values, and nothing that asks for it can tell equal values
apart. -/
theorem equality_is_equivalence {a b c : Value} (ha : a.Regular) (hb : b.Regular) (hc : c.Regular) :
    a.equal a = true ∧ a.equal b = b.equal a ∧ (a.equal b = true → b.equal c = true → a.equal c = true) ∧
      (a.equal b = true →
        a.truthy = b.truthy ∧
        (∀ op, op = .equal ∨ op = .notEqual →
          binaryOp op a c = binaryOp op b c ∧ binaryOp op c a = binaryOp op c b) ∧
        (∀ right items, right.items? = some items → binaryOp .within a right = binaryOp .within b right) ∧
        ∀ before after : List Value,
          binaryOp .within c (.list (before ++ a :: after)) = binaryOp .within c (.list (before ++ b :: after)) ∧
          binaryOp .within c (.tuple (before ++ a :: after)) = binaryOp .within c (.tuple (before ++ b :: after))) := by
  have hcongr := ha.steady_equal.congr b hb
  refine ⟨ha.steady_equal.refl, ha.steady_equal.comm b hb, fun hab hbc => by rw [hcongr hab, hbc], fun hab => ?_⟩
  have hleft : a.equal = b.equal := funext (hcongr hab)
  have hright : c.equal a = c.equal b := by
    rw [hc.steady_equal.comm a ha, hc.steady_equal.comm b hb, hleft]
  refine ⟨truthy_of_equal hab, ?_, fun right items hright => ?_, fun before after => ?_⟩
  · rintro op (rfl | rfl) <;> simp only [binaryOp, hleft, hright, and_self]
  · cases right <;> cases hright <;> simp only [binaryOp, withinOp, hleft]
  · simp only [binaryOp, withinOp, List.any_append, List.any_cons, hright, and_self]

theorem regular_of_no_parts {v : Value} (hsound : v.Sound) (hparts : v.parts = []) : v.Regular :=
  .intro hsound (by simp [hparts])

/-- A number and a map with a truth value, under keys in one order. -/
theorem regular_counted {n live : Value} (hn : n.Regular) (hlive : live.Regular) :
    (Value.list [n, .map [(.text "live", live), (.text "take", .null)]]).Regular ∧
      (Value.tuple [n, .map [(.text "take", .null), (.text "live", live)]]).Regular := by
  have htext : ∀ s, (Value.text s).Regular := fun s => regular_of_no_parts trivial rfl
  have hnull : Value.null.Regular := regular_of_no_parts trivial rfl
  have hmap : ∀ k l : String, ∀ v w : Value, k ≠ l → v.Regular → w.Regular →
      (Value.map [(.text k, v), (.text l, w)]).Regular := fun k l v w hne hv hw =>
    .intro (by simpa [Sound, Distinct, same] using hne) (by simp [parts, htext, hv, hw])
  exact ⟨.intro trivial (by simp [parts, hn, hmap _ _ _ _ (by decide : "live" ≠ "take") hlive hnull]),
    .intro trivial (by simp [parts, hn, hmap _ _ _ _ (by decide : "take" ≠ "live") hnull hlive])⟩

theorem equality_is_equivalence_mixed :
    let a : Value := .list [.int 1, .map [(.text "live", .bool true), (.text "take", .null)]]
    let b : Value := .tuple [.float 1, .map [(.text "take", .null), (.text "live", .int 1)]]
    let c : Value := .list [.float 1, .map [(.text "live", .int 1), (.text "take", .null)]]
    a.equal b = true ∧ b.equal c = true ∧ a.equal c = true ∧ a.truthy = b.truthy ∧
      binaryOp .within c (.list [.null, a]) = binaryOp .within c (.list [.null, b]) := by
  intro a b c
  have hone : (Value.int 1).Regular := regular_of_no_parts trivial rfl
  have hdouble : (Value.float 1).Regular := regular_of_no_parts (show Float.isNaN 1 = false by decide +kernel) rfl
  have ha : a.Regular := (regular_counted hone (regular_of_no_parts (v := .bool true) trivial rfl)).1
  have hb : b.Regular := (regular_counted hdouble hone).2
  have hc : c.Regular := (regular_counted hdouble hone).1
  have hab : a.equal b = true := by decide +kernel
  have hbc : b.equal c = true := by decide +kernel
  obtain ⟨-, -, htrans, hreplace⟩ := equality_is_equivalence ha hb hc
  obtain ⟨htruthy, -, -, hitem⟩ := hreplace hab
  exact ⟨hab, hbc, htrans hab hbc, htruthy, (hitem [.null] []).1⟩

end Evaluation
end CaptionAnimation
