import CaptionAnimation.Proofs.Cache.Atoms
import CaptionAnimation.Proofs.Value.Writable
import Mathlib.Data.List.Perm.Basic

/-! # Canonical text can be read in one way

Plain metadata has one canonical text, whatever the order of its keys, and no other metadata has it. The second half is
shown with any text behind: where two documents are written at the front of the same characters, they agree and what
follows them is the same. A list comes apart at its commas and closing bracket, since no item of it begins with either;
a map comes apart likewise into its fields in the order of their names. -/
namespace CaptionAnimation.Canonical

open Text (isAsciiDigit)

variable {α β γ : Type} {c : Char} {rest rest' : List Char} {v w : Value} {fields : List (String × Value)}

/-! ## Documents -/

/-- The entries of a map with texts for keys. -/
def keyed (fields : List (String × α)) : List (Value × α) := fields.map fun f => (Value.text f.1, f.2)

/-- What plain metadata may be: null, booleans, integers that can be written, texts, lists, and maps whose keys are
distinct texts. -/
inductive IsDocument : Value → Prop
  | null : IsDocument .null
  | bool (b : Bool) : IsDocument (.bool b)
  | int {n : Int} (h : n.natAbs < tenTo Number.digitLimit) : IsDocument (.int n)
  | text (s : String) : IsDocument (.text s)
  | list {items : List Value} (h : ∀ x ∈ items, IsDocument x) : IsDocument (.list items)
  | map (fields : List (String × Value)) (hkeys : (fields.map Prod.fst).Nodup) (h : ∀ f ∈ fields, IsDocument f.2) :
    IsDocument (.map (keyed fields))

/-- Two documents that are equal up to the order of keys, at every depth. -/
inductive Rearranged : Value → Value → Prop
  | refl (v : Value) : Rearranged v v
  | list {xs ys : List Value} (h : List.Forall₂ Rearranged xs ys) : Rearranged (.list xs) (.list ys)
  | map {fs gs hs : List (String × Value)} (horder : fs.Perm gs) (hkeys : gs.map Prod.fst = hs.map Prod.fst)
    (hvalues : List.Forall₂ Rearranged (gs.map Prod.snd) (hs.map Prod.snd)) :
    Rearranged (.map (keyed fs)) (.map (keyed hs))

/-- The fields in the order of their names. -/
def byName (fields : List (String × α)) : List (String × α) := fields.mergeSort fun f g => !decide (g.1 < f.1)

theorem byName_perm (fields : List (String × α)) : (byName fields).Perm fields := List.mergeSort_perm _ _

theorem mem_byName {f : String × α} {fields : List (String × α)} : f ∈ byName fields ↔ f ∈ fields :=
  (byName_perm fields).mem_iff

theorem map_byName (f : α → β) (fields : List (String × α)) :
    (byName fields).map (Prod.map id f) = byName (fields.map (Prod.map id f)) :=
  List.map_mergeSort fun _ _ _ _ => rfl

theorem byName_pairwise (fields : List (String × α)) : (byName fields).Pairwise fun f g => f.1 ≤ g.1 := by
  have hsorted : (byName fields).Pairwise fun f g => (!decide (g.1 < f.1)) = true :=
    List.pairwise_mergeSort
      (fun f g h hfg hgh => by
        simp only [Bool.not_eq_true', decide_eq_false_iff_not, String.not_lt] at hfg hgh ⊢
        exact String.le_trans hfg hgh)
      (fun f g => by
        simp only [Bool.or_eq_true, Bool.not_eq_true', decide_eq_false_iff_not, String.not_lt]
        exact String.le_total f.1 g.1) fields
  exact hsorted.imp fun h => by simpa only [Bool.not_eq_true', decide_eq_false_iff_not, String.not_lt] using h

/-- Fields with distinct names have one order. -/
theorem byName_eq_of_perm {fs gs : List (String × α)} (hkeys : (fs.map Prod.fst).Nodup) (h : fs.Perm gs) :
    byName fs = byName gs := by
  have hperm : (byName fs).Perm (byName gs) := (byName_perm fs).trans (h.trans (byName_perm gs).symm)
  refine hperm.eq_of_pairwise (fun f g hf hg hle hge => ?_) (byName_pairwise fs) (byName_pairwise gs)
  have hg' : g ∈ fs := h.mem_iff.mpr (mem_byName.mp hg)
  exact List.inj_on_of_nodup_map hkeys (mem_byName.mp hf) hg' (String.le_antisymm hle hge)

theorem sorted_keyed (fields : List (String × α)) : KeyOrder.sorted (keyed fields) = .ok (keyed (byName fields)) := by
  unfold KeyOrder.sorted
  rw [if_pos (by simp [keyed])]
  refine congrArg Except.ok ?_
  rw [keyed, keyed, byName]
  exact (List.map_mergeSort (f := fun f : String × α => (Value.text f.1, f.2)) fun _ _ _ _ => rfl).symm

/-! ## The text of a document -/

/-- The characters of the canonical text. -/
def written (v : Value) : List Char := ((text v).toOption.getD "").toList

/-- The text of a field of a map. -/
def member (f : String × Value) : List Char := quotedChars f.1 ++ ':' :: written f.2

def separated (texts : List (List Char)) : List Char := [','].intercalate texts

/-- The value has a canonical text. -/
def HasText (v : Value) : Prop := text v = .ok (String.ofList (written v))

theorem written_of_text {s : String} (h : text v = .ok s) : written v = s.toList := by
  rw [written, h]
  rfl

theorem hasText_of_text {s : String} (h : text v = .ok s) : HasText v := by
  rw [HasText, written_of_text h, h, String.ofList_toList]

theorem texts_eq {items : List Value} (h : ∀ x ∈ items, HasText x) :
    texts items = .ok (items.map fun x => String.ofList (written x)) := by
  induction items with
  | nil => rfl
  | cons x xs ih =>
    have hx : text x = .ok (String.ofList (written x)) := h x List.mem_cons_self
    rw [texts, hx, ih fun y hy => h y (List.mem_cons_of_mem _ hy)]
    rfl

theorem text_list {items : List Value} (h : ∀ x ∈ items, HasText x) :
    text (.list items) = .ok (String.ofList ('[' :: (separated (items.map written) ++ [']']))) := by
  rw [text, texts_eq h]
  refine congrArg Except.ok (String.toList_inj.mp ?_)
  simp [String.toList_intercalate, separated, Function.comp_def]

theorem members_keyed (fields : List (String × Value)) :
    members (keyed fields) = keyed (fields.map (Prod.map id text)) := by
  induction fields with
  | nil => rfl
  | cons f fs ih => simpa [keyed, members] using ih

theorem mapM_eq_ok {ε : Type} {f : α → Except ε β} {g : α → β} {as : List α} (h : ∀ a ∈ as, f a = .ok (g a)) :
    as.mapM f = .ok (as.map g) := by
  induction as with
  | nil => rfl
  | cons a as ih =>
    rw [List.mapM_cons, h a List.mem_cons_self, ih fun b hb => h b (List.mem_cons_of_mem _ hb)]
    rfl

theorem ok_bind {ε : Type} (a : α) (f : α → Except ε β) : (Except.ok a >>= f) = f a := rfl

theorem text_map (h : ∀ f ∈ fields, HasText f.2) :
    text (.map (keyed fields)) =
      .ok (String.ofList ('\x7b' :: (separated ((byName fields).map member) ++ ['\x7d']))) := by
  have hmembers : (keyed (byName (fields.map (Prod.map id text)))).mapM
      (fun e => do return quoted (← keyText e.1) ++ ":" ++ (← e.2)) =
      .ok ((byName fields).map fun f => String.ofList (member f)) := by
    rw [← map_byName, keyed, List.map_map, List.mapM_map]
    refine mapM_eq_ok fun f hf => ?_
    have hf' : text f.2 = .ok (String.ofList (written f.2)) := h f (mem_byName.mp hf)
    simp only [Function.comp_apply, Prod.map, id_eq, keyText, hf']
    refine congrArg Except.ok (String.toList_inj.mp ?_)
    simp [member, quotedChars, quoted]
  rw [text, members_keyed, object, sorted_keyed, ok_bind, hmembers, ok_bind]
  refine congrArg Except.ok (String.toList_inj.mp ?_)
  simp [String.toList_intercalate, separated, Function.comp_def]

theorem text_int {n : Int} (h : n.natAbs < tenTo Number.digitLimit) : text (.int n) = .ok (toString n) := by
  rw [Value.int, text, number, Number.intText_of_lt h]

/-- Every document has a canonical text. -/
theorem IsDocument.hasText (h : IsDocument v) : HasText v := by
  induction h with
  | null | bool | text => exact hasText_of_text rfl
  | int hn => exact hasText_of_text (text_int hn)
  | list _ ih => exact hasText_of_text (text_list ih)
  | map fields _ _ ih => exact hasText_of_text (text_map ih)

theorem written_int {n : Int} (h : n.natAbs < tenTo Number.digitLimit) : written (.int n) = (toString n).toList :=
  written_of_text (text_int h)

theorem written_text (s : String) : written (.text s) = quotedChars s :=
  (written_of_text rfl).trans String.toList_ofList

theorem written_list {items : List Value} (h : ∀ x ∈ items, IsDocument x) :
    written (.list items) = '[' :: (separated (items.map written) ++ [']']) :=
  (written_of_text (text_list fun x hx => (h x hx).hasText)).trans String.toList_ofList

theorem written_map (h : ∀ f ∈ fields, IsDocument f.2) :
    written (.map (keyed fields)) = '\x7b' :: (separated ((byName fields).map member) ++ ['\x7d']) :=
  (written_of_text (text_map fun f hf => (h f hf).hasText)).trans String.toList_ofList

/-! ## The order of keys does not show -/

theorem keyed_injective : Function.Injective (keyed (α := α)) :=
  List.map_injective_iff.mpr fun f g h => by
    obtain ⟨hkey, hvalue⟩ := Prod.mk.inj h
    exact Prod.ext (Value.text.inj hkey) hvalue

theorem isDocument_list {items : List Value} : IsDocument (.list items) ↔ ∀ x ∈ items, IsDocument x :=
  ⟨fun h => by cases h; assumption, .list⟩

theorem isDocument_keyed :
    IsDocument (.map (keyed fields)) ↔ (fields.map Prod.fst).Nodup ∧ ∀ f ∈ fields, IsDocument f.2 := by
  refine ⟨fun h => ?_, fun h => .map fields h.1 h.2⟩
  generalize hm : Value.map (keyed fields) = m at h
  cases h with
  | map gs hkeys hgs =>
    obtain rfl : fields = gs := keyed_injective (Value.map.inj hm)
    exact ⟨hkeys, hgs⟩
  | _ => cases hm

theorem Rearranged.exists_items {items : List Value} (h : Rearranged (.list items) w) :
    ∃ items', w = .list items' ∧ List.Forall₂ Rearranged items items' := by
  cases h with
  | refl => exact ⟨items, rfl, List.forall₂_same.mpr fun x _ => .refl x⟩
  | list h => exact ⟨_, rfl, h⟩

/-- Two lists agree in names and are related in values when they are so field by field. -/
theorem forall₂_fields_iff {R : α → β → Prop} {gs : List (String × α)} {hs : List (String × β)} :
    List.Forall₂ (fun g h => g.1 = h.1 ∧ R g.2 h.2) gs hs ↔
      gs.map Prod.fst = hs.map Prod.fst ∧ List.Forall₂ R (gs.map Prod.snd) (hs.map Prod.snd) := by
  induction gs generalizing hs with
  | nil => cases hs <;> simp
  | cons g gs ih =>
    cases hs with
    | nil => simp
    | cons h hs => simp only [List.forall₂_cons, List.map_cons, List.cons.injEq, ih]; tauto

theorem Rearranged.exists_fields (h : Rearranged (.map (keyed fields)) w) : ∃ gs hs, w = .map (keyed hs) ∧
    fields.Perm gs ∧ List.Forall₂ (fun g h => g.1 = h.1 ∧ Rearranged g.2 h.2) gs hs := by
  generalize hm : Value.map (keyed fields) = m at h
  cases h with
  | refl =>
    exact ⟨fields, fields, hm.symm, .refl fields, List.forall₂_same.mpr fun f _ => ⟨rfl, .refl f.2⟩⟩
  | list => cases hm
  | @map fs gs hs horder hnames hvalues =>
    obtain rfl : fields = fs := keyed_injective (Value.map.inj hm)
    exact ⟨gs, hs, rfl, horder, forall₂_fields_iff.mpr ⟨hnames, hvalues⟩⟩

/-- Lists whose items are alike under two functions are alike under them. -/
theorem map_eq_of_forall₂ {R : α → β → Prop} {f : α → γ} {g : β → γ} {xs : List α} {ys : List β}
    (h : List.Forall₂ R xs ys) (hfg : ∀ x ∈ xs, ∀ y ∈ ys, R x y → f x = g y) : xs.map f = ys.map g := by
  induction h with
  | nil => rfl
  | cons hxy _ ih =>
    rw [List.map_cons, List.map_cons, hfg _ List.mem_cons_self _ List.mem_cons_self hxy,
      ih fun x hx y hy => hfg x (List.mem_cons_of_mem _ hx) y (List.mem_cons_of_mem _ hy)]

/-- Fields are written by their names and the texts of their values. -/
theorem map_member_byName (fields : List (String × Value)) : (byName fields).map member =
    (byName (fields.map (Prod.map id written))).map fun p => quotedChars p.1 ++ ':' :: p.2 := by
  rw [← map_byName, List.map_map]
  rfl

theorem written_eq_of_rearranged (hv : IsDocument v) (hw : IsDocument w) (h : Rearranged v w) :
    written v = written w := by
  induction hv generalizing w with
  | null | bool | int | text => cases h; rfl
  | @list items hitems ih =>
    obtain ⟨items', rfl, hforall⟩ := h.exists_items
    have hitems' := isDocument_list.mp hw
    rw [written_list hitems, written_list hitems', map_eq_of_forall₂ hforall fun x hx y hy => ih x hx (hitems' y hy)]
  | map fields hkeys hfields ih =>
    obtain ⟨gs, hs, rfl, horder, hforall⟩ := h.exists_fields
    have hfields' := (isDocument_keyed.mp hw).2
    have htexts : gs.map (Prod.map id written) = hs.map (Prod.map id written) :=
      map_eq_of_forall₂ hforall fun g hg h hh hgh =>
        Prod.ext hgh.1 (ih g (horder.mem_iff.mpr hg) (hfields' h hh) hgh.2)
    have hnames : ((fields.map (Prod.map id written)).map Prod.fst).Nodup := by
      rw [List.map_map]
      exact hkeys
    rw [written_map hfields, written_map hfields', map_member_byName, map_member_byName,
      byName_eq_of_perm hnames (horder.map _), htexts]

/-! ## Nothing else is lost -/

/-- The kind of value whose text begins with the character. -/
def kindOf (c : Char) : String :=
  match c with
  | 'n' => "null"
  | 't' | 'f' => "boolean"
  | '"' => "string"
  | '[' => "list"
  | '\x7b' => "map"
  | _ => "number"

theorem kindOf_of_isAsciiDigit (h : isAsciiDigit c = true) : kindOf c = "number" := by
  unfold kindOf
  split <;> first | rfl | exact absurd h (by decide)

/-- The text of a document begins like no other kind of value and like no end of a list. -/
theorem IsDocument.exists_first (h : IsDocument v) : ∃ c cs, written v = c :: cs ∧ kindOf c = v.kind ∧ c ≠ ']' := by
  cases h with
  | null => exact ⟨_, _, rfl, rfl, by decide⟩
  | bool b => cases b <;> exact ⟨_, _, rfl, rfl, by decide⟩
  | @int n hn =>
    rw [written_int hn]
    cases n with
    | ofNat n =>
      rw [toList_toString_ofNat]
      cases hdigits : Nat.toDigits 10 n with
      | nil => exact absurd hdigits Nat.toDigits_ne_nil
      | cons c cs =>
        have hc : isAsciiDigit c = true := isAsciiDigit_of_mem_toDigits (n := n) (hdigits ▸ List.mem_cons_self)
        exact ⟨c, cs, rfl, kindOf_of_isAsciiDigit hc, by rintro rfl; exact absurd hc (by decide)⟩
    | negSucc n => exact ⟨_, _, toList_toString_negSucc n, rfl, by decide⟩
  | text s => exact ⟨_, _, written_text s, rfl, by decide⟩
  | list h => exact ⟨_, _, written_list h, rfl, by decide⟩
  | map fields _ h => exact ⟨_, _, written_map h, rfl, by decide⟩

theorem kind_eq_of_written (hv : IsDocument v) (hw : IsDocument w) (h : written v ++ rest = written w ++ rest') :
    v.kind = w.kind := by
  obtain ⟨c, cs, hc, hkind, -⟩ := hv.exists_first
  obtain ⟨d, ds, hd, hkind', -⟩ := hw.exists_first
  rw [hc, hd] at h
  rw [← hkind, ← hkind', (List.cons.inj h).1]

/-- Whatever follows the two texts, they can only begin alike when the proposition holds, and then end together. -/
def Tells (p : Prop) (cs ds : List Char) : Prop :=
  ∀ ⦃rest rest' : List Char⦄, Ends rest → Ends rest' → cs ++ rest = ds ++ rest' → p ∧ rest = rest'

section Separated

variable {R : α → β → Prop} {f : α → List Char} {g : β → List Char} {xs : List α} {ys : List β} {close : Char}

/-- Further texts, each behind a comma. -/
def further (texts : List (List Char)) : List Char := texts.flatMap (',' :: ·)

theorem separated_cons (text : List Char) (texts : List (List Char)) :
    separated (text :: texts) = text ++ further texts := by
  unfold separated further
  induction texts generalizing text with
  | nil => simp
  | cons t ts ih =>
    rw [List.intercalate_cons_cons, ih, List.flatMap_cons, List.append_assoc, List.singleton_append, List.cons_append]

theorem ends_further (hdigit : isAsciiDigit close = false) (texts : List (List Char)) (rest : List Char) :
    Ends (further texts ++ close :: rest) := by
  cases texts with
  | nil => exact ends_cons hdigit
  | cons t ts => exact ends_cons rfl

theorem further_append_inj (hclose : close ≠ ',') (hdigit : isAsciiDigit close = false)
    (htells : ∀ x ∈ xs, ∀ y ∈ ys, Tells (R x y) (f x) (g y))
    (h : further (xs.map f) ++ close :: rest = further (ys.map g) ++ close :: rest') :
    List.Forall₂ R xs ys ∧ rest = rest' := by
  induction xs generalizing ys with
  | nil =>
    cases ys with
    | nil => exact ⟨.nil, (List.cons.inj h).2⟩
    | cons y ys => exact absurd (List.cons.inj h).1 hclose
  | cons x xs ih =>
    cases ys with
    | nil => exact absurd (List.cons.inj h).1.symm hclose
    | cons y ys =>
      have hcons : ∀ (t : List Char) (ts : List (List Char)), further (t :: ts) = ',' :: (t ++ further ts) :=
        fun _ _ => rfl
      simp only [List.map_cons, hcons, List.cons_append, List.append_assoc, List.cons.injEq, true_and] at h
      obtain ⟨hxy, hmore⟩ :=
        htells x List.mem_cons_self y List.mem_cons_self (ends_further hdigit _ _) (ends_further hdigit _ _) h
      obtain ⟨hforall, hrest⟩ :=
        ih (fun x hx y hy => htells x (List.mem_cons_of_mem _ hx) y (List.mem_cons_of_mem _ hy)) hmore
      exact ⟨.cons hxy hforall, hrest⟩

/-- Items between commas, up to a bracket that none of them begins with, come apart in one way. -/
theorem separated_append_inj (hclose : close ≠ ',') (hdigit : isAsciiDigit close = false)
    (hxs : ∀ x ∈ xs, ∃ c cs, f x = c :: cs ∧ c ≠ close) (hys : ∀ y ∈ ys, ∃ c cs, g y = c :: cs ∧ c ≠ close)
    (htells : ∀ x ∈ xs, ∀ y ∈ ys, Tells (R x y) (f x) (g y))
    (h : separated (xs.map f) ++ close :: rest = separated (ys.map g) ++ close :: rest') :
    List.Forall₂ R xs ys ∧ rest = rest' := by
  cases xs with
  | nil =>
    cases ys with
    | nil => exact ⟨.nil, (List.cons.inj h).2⟩
    | cons y ys =>
      obtain ⟨c, cs, hc, hne⟩ := hys y List.mem_cons_self
      rw [List.map_cons, separated_cons, hc] at h
      exact absurd (List.cons.inj h).1.symm hne
  | cons x xs =>
    cases ys with
    | nil =>
      obtain ⟨c, cs, hc, hne⟩ := hxs x List.mem_cons_self
      rw [List.map_cons, separated_cons, hc] at h
      exact absurd (List.cons.inj h).1 hne
    | cons y ys =>
      simp only [List.map_cons, separated_cons, List.append_assoc] at h
      obtain ⟨hxy, hmore⟩ :=
        htells x List.mem_cons_self y List.mem_cons_self (ends_further hdigit _ _) (ends_further hdigit _ _) h
      obtain ⟨hforall, hrest⟩ := further_append_inj hclose hdigit
        (fun x hx y hy => htells x (List.mem_cons_of_mem _ hx) y (List.mem_cons_of_mem _ hy)) hmore
      exact ⟨.cons hxy hforall, hrest⟩

end Separated

/-- A field tells its name and what its value tells. -/
theorem Tells.member {p : Prop} {f g : String × Value} (h : Tells p (written f.2) (written g.2)) :
    Tells (f.1 = g.1 ∧ p) (member f) (member g) := by
  intro rest rest' hrest hrest' heq
  simp only [Canonical.member, List.append_assoc, List.cons_append] at heq
  obtain ⟨hname, hmore⟩ := quotedChars_append_inj heq
  obtain ⟨hp, hrests⟩ := h hrest hrest' (List.cons.inj hmore).2
  exact ⟨⟨hname, hp⟩, hrests⟩

/-- The order of the fields on either side does not matter to rearrangement. -/
theorem Rearranged.of_byName {fs gs : List (String × Value)}
    (h : List.Forall₂ (fun f g => f.1 = g.1 ∧ Rearranged f.2 g.2) (byName fs) (byName gs)) :
    Rearranged (.map (keyed fs)) (.map (keyed gs)) := by
  have hcomp : Relation.Comp List.Perm
      (List.Forall₂ fun f g : String × Value => f.1 = g.1 ∧ Rearranged f.2 g.2) fs gs := by
    rw [← List.forall₂_comp_perm_eq_perm_comp_forall₂]
    obtain ⟨hs, hforall, hperm⟩ := List.perm_comp_forall₂ (byName_perm fs).symm h
    exact ⟨hs, hforall, hperm.trans (byName_perm gs)⟩
  obtain ⟨hs, hperm, hforall⟩ := hcomp
  obtain ⟨hnames, hvalues⟩ := forall₂_fields_iff.mp hforall
  exact .map hperm hnames hvalues

theorem IsDocument.first_ne_bracket (h : IsDocument v) : ∃ c cs, written v = c :: cs ∧ c ≠ ']' := by
  obtain ⟨c, cs, hc, -, hne⟩ := h.exists_first
  exact ⟨c, cs, hc, hne⟩

theorem member_first (f : String × Value) : ∃ c cs, member f = c :: cs ∧ c ≠ '\x7d' := ⟨_, _, rfl, by decide⟩

/-- The text of a document tells the document, but for the order of keys. -/
theorem tells_of_isDocument (hv : IsDocument v) (hw : IsDocument w) :
    Tells (Rearranged v w) (written v) (written w) := by
  -- By the first document; its first character already decides the kind of the second one.
  induction hv generalizing w with
  | null =>
    intro rest rest' _ _ h
    have hkind := kind_eq_of_written .null hw h
    cases hw with
    | null => exact ⟨.refl _, List.append_cancel_left h⟩
    | _ => simp [Value.kind, Value.int] at hkind
  | bool b =>
    intro rest rest' _ _ h
    have hkind := kind_eq_of_written (.bool b) hw h
    cases hw with
    | bool b' =>
      cases b <;> cases b'
      case false.false | true.true => exact ⟨.refl _, List.append_cancel_left h⟩
      all_goals exact absurd (List.cons.inj h).1 (by decide)
    | _ => simp [Value.kind, Value.int] at hkind
  | int hn =>
    intro rest rest' hrest hrest' h
    have hkind := kind_eq_of_written (.int hn) hw h
    cases hw with
    | int hn' =>
      rw [written_int hn, written_int hn'] at h
      obtain ⟨rfl, hrests⟩ := toString_append_inj h hrest hrest'
      exact ⟨.refl _, hrests⟩
    | _ => simp [Value.kind, Value.int] at hkind
  | text s =>
    intro rest rest' _ _ h
    have hkind := kind_eq_of_written (.text s) hw h
    cases hw with
    | text t =>
      rw [written_text, written_text] at h
      obtain ⟨rfl, hrests⟩ := quotedChars_append_inj h
      exact ⟨.refl _, hrests⟩
    | _ => simp [Value.kind, Value.int] at hkind
  | @list items hitems ih =>
    intro rest rest' _ _ h
    have hkind := kind_eq_of_written (.list hitems) hw h
    cases hw with
    | @list items' hitems' =>
      rw [written_list hitems, written_list hitems'] at h
      simp only [List.cons_append, List.append_assoc, List.nil_append, List.cons.injEq, true_and] at h
      obtain ⟨hforall, hrests⟩ := separated_append_inj (by decide) (by decide)
        (fun x hx => (hitems x hx).first_ne_bracket) (fun y hy => (hitems' y hy).first_ne_bracket)
        (fun x hx y hy => ih x hx (hitems' y hy)) h
      exact ⟨.list hforall, hrests⟩
    | _ => simp [Value.kind, Value.int] at hkind
  | map fields hkeys hfields ih =>
    intro rest rest' _ _ h
    have hkind := kind_eq_of_written (.map fields hkeys hfields) hw h
    cases hw with
    | map fields' _ hfields' =>
      rw [written_map hfields, written_map hfields'] at h
      simp only [List.cons_append, List.append_assoc, List.nil_append, List.cons.injEq, true_and] at h
      obtain ⟨hforall, hrests⟩ := separated_append_inj (by decide) (by decide)
        (fun f _ => member_first f) (fun g _ => member_first g)
        (fun f hf g hg => (ih f (mem_byName.mp hf) (hfields' g (mem_byName.mp hg))).member) h
      exact ⟨.of_byName hforall, hrests⟩
    | _ => simp [Value.kind, Value.int] at hkind

theorem written_eq_iff (hv : IsDocument v) (hw : IsDocument w) : written v = written w ↔ Rearranged v w :=
  ⟨fun h => (tells_of_isDocument hv hw ends_nil ends_nil (congrArg (· ++ []) h)).1, written_eq_of_rearranged hv hw⟩

end CaptionAnimation.Canonical
