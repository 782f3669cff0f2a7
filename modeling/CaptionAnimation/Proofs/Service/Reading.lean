import CaptionAnimation.Proofs.Except
import CaptionAnimation.Service.Body
import CaptionAnimation.Template.Reading
import Mathlib.Data.List.Forall2
import Mathlib.Data.List.Basic

/-! # What reading a body gives

A value whose parts have their declared types is read as it is, but for integers that become doubles and for what is
filled in: an object has all its fields afterwards, those that were missing with their defaults. -/
namespace CaptionAnimation.Service

/-- A field of an object: its name, its second spelling, its shape and its default. -/
abbrev Field := String × Option String × Shape × Option Value

namespace Shape

/-- What stands under a field in a map, if anything. -/
def given? (entries : Entries) (f : Field) : Option Value := (lookup entries f.1 f.2.1).map (·.2)

/-- The parts of a value have the types that a shape declares. A number may be an integer or a double. -/
inductive Declares : Shape → Value → Prop where
  | anything (v : Value) : Declares anything v
  | text (s : String) : Declares text (.text s)
  | whole {bounds : List Bound} (n : Int) : Declares (number bounds) (.int n)
  | double {bounds : List Bound} (x : Float) : Declares (number bounds) (.float x)
  | integer {bounds : List Bound} (n : Int) : Declares (integer bounds) (.int n)
  | switch (b : Bool) : Declares switch (.bool b)
  | null {inner : Shape} : Declares (optional inner) .null
  | some {inner : Shape} {v : Value} (h : Declares inner v) : Declares (optional inner) v
  | list {item : Shape} {items : List Value} (h : ∀ x ∈ items, Declares item x) : Declares (list item) (.list items)
  | table {item : Shape} {entries : Entries} (hk : ∀ e ∈ entries, ∃ key, e.1 = .text key)
    (h : ∀ e ∈ entries, Declares item e.2) : Declares (table item) (.map entries)
  | object {keepsOthers : Bool} {fields : List Field} {entries : Entries}
    (h : ∀ f ∈ fields, ∀ v, given? entries f = .some v → Declares f.2.2.1 v) :
    Declares (object keepsOthers fields) (.map entries)

/-- Of values of these shapes nothing is converted and nothing filled in. -/
def isPlain : Shape → Bool
  | anything | text | integer _ | switch => true
  | number _ | object _ _ => false
  | optional inner => inner.isPlain
  | list item => item.isPlain
  | table item => item.isPlain

/-! ## Whether the types are those declared -/

mutual

/-- Whether the parts of a value have the types that a shape declares. -/
def suits : Shape → Value → Bool
  | anything, _ => true
  | text, v => v.text?.isSome
  | number _, v =>
    match v with
    | .number (.int _) => true
    | .number (.double q) => q.origin.isNone
    | _ => false
  | integer _, v =>
    match v with
    | .number (.int _) => true
    | _ => false
  | switch, v =>
    match v with
    | .bool _ => true
    | _ => false
  | optional inner, v =>
    match v with
    | .null => true
    | v => inner.suits v
  | list item, v =>
    match v with
    | .list items => items.all item.suits
    | _ => false
  | table item, v =>
    match v with
    | .map entries => entries.all fun e => e.1.text?.isSome && item.suits e.2
    | _ => false
  | object _ fields, v =>
    match v with
    | .map entries => suitsFields fields entries
    | _ => false

def suitsFields : List Field → Entries → Bool
  | [], _ => true
  | (name, other, shape, _) :: rest, entries =>
    ((lookup entries name other).all fun found => shape.suits found.2) && suitsFields rest entries

end

mutual

theorem declares_of_suits (shape : Shape) {v : Value} (h : shape.suits v = true) : shape.Declares v := by
  cases shape with
  | anything => exact .anything v
  | text =>
    cases v with
    | text s => exact .text s
    | _ => simp [suits, Value.text?] at h
  | number bounds =>
    simp only [suits] at h
    split at h
    · exact .whole _
    · next q =>
      obtain ⟨x, origin⟩ := q
      obtain rfl := Option.isNone_iff_eq_none.mp h
      exact .double x
    · cases h
  | integer bounds =>
    simp only [suits] at h
    split at h
    · exact .integer _
    · cases h
  | switch =>
    simp only [suits] at h
    split at h
    · exact .switch _
    · cases h
  | optional inner =>
    simp only [suits] at h
    split at h
    · exact .null
    · exact .some (declares_of_suits inner h)
  | list item =>
    simp only [suits] at h
    split at h
    · exact .list fun x hx => declares_of_suits item (List.all_eq_true.mp h x hx)
    · cases h
  | table item =>
    simp only [suits] at h
    split at h
    · next entries =>
      have hall : ∀ e ∈ entries, e.1.text?.isSome = true ∧ item.suits e.2 = true := by simpa using h
      refine .table (fun e he => ?_) fun e he => declares_of_suits item (hall e he).2
      obtain ⟨k, x⟩ := e
      cases k with
      | text key => exact ⟨key, rfl⟩
      | _ => cases (hall _ he).1
    · cases h
  | object keepsOthers fields =>
    simp only [suits] at h
    split at h
    · exact .object (declares_of_suitsFields fields h)
    · cases h

theorem declares_of_suitsFields (fields : List Field) {entries : Entries}
    (h : suitsFields fields entries = true) :
    ∀ f ∈ fields, ∀ v, given? entries f = some v → f.2.2.1.Declares v := by
  cases fields with
  | nil => exact List.forall_mem_nil _
  | cons f rest =>
    obtain ⟨name, other, shape, default⟩ := f
    simp only [suitsFields, Bool.and_eq_true] at h
    refine List.forall_mem_cons.mpr ⟨fun v hv => ?_, declares_of_suitsFields rest h.2⟩
    obtain ⟨found, hfound, rfl⟩ := Option.map_eq_some_iff.mp hv
    have hsuits := h.1
    rw [show lookup entries name other = some found from hfound] at hsuits
    exact declares_of_suits shape hsuits

end
theorem suitsFields_of_forall {fields : List Field} {entries : Entries}
    (h : ∀ f ∈ fields, ∀ v, given? entries f = some v → f.2.2.1.suits v = true) :
    suitsFields fields entries = true := by
  induction fields with
  | nil => simp only [suitsFields]
  | cons f rest ih =>
    obtain ⟨name, other, shape, default⟩ := f
    obtain ⟨hfirst, hrest⟩ := List.forall_mem_cons.mp h
    simp only [suitsFields, ih hrest, Bool.and_true, Option.all_eq_true]
    exact fun found hfound => hfirst found.2 (Option.map_eq_some_iff.mpr ⟨found, hfound, rfl⟩)

theorem suits_of_declares {shape : Shape} {v : Value} (h : shape.Declares v) : shape.suits v = true := by
  induction h with
  | anything | text | whole | double | integer | switch | null =>
    simp [suits, Value.text?, Value.int, Value.float, Number.float]
  | @some inner v _ ih =>
    simp only [suits]
    split
    · rfl
    · exact ih
  | list _ ih =>
    simp only [suits]
    exact List.all_eq_true.mpr ih
  | table hk _ ih =>
    simp only [suits]
    refine List.all_eq_true.mpr fun e he => ?_
    obtain ⟨key, hkey⟩ := hk e he
    rw [hkey, ih e he]
    rfl
  | object _ ih =>
    simp only [suits]
    exact suitsFields_of_forall ih

instance (shape : Shape) (v : Value) : Decidable (shape.Declares v) :=
  decidable_of_iff (shape.suits v = true) ⟨declares_of_suits shape, suits_of_declares⟩

/-! ## One after the other -/

theorem gather_eq_ok {readings : List Reading} {values : List Value} (h : gather readings = .ok values) :
    readings = values.map .ok := by
  induction readings generalizing values with
  | nil =>
    obtain rfl := Except.ok.inj h
    rfl
  | cons r rest ih =>
    unfold gather at h
    split at h
    · next v vs hrest =>
      obtain rfl := Except.ok.inj h
      rw [ih hrest, List.map_cons]
    all_goals cases h

theorem eq_of_forall₂ {α : Type} {related : α → α → Prop} {as bs : List α} (h : List.Forall₂ related as bs)
    (heq : ∀ a ∈ as, ∀ b, related a b → b = a) : bs = as := by
  induction h with
  | nil => rfl
  | cons hab _ ih =>
    rw [heq _ List.mem_cons_self _ hab, ih fun a ha => heq a (List.mem_cons_of_mem _ ha)]

theorem forall₂_and_mem {α β : Type} {related : α → β → Prop} {good : α → Prop} {as : List α} {bs : List β}
    (h : List.Forall₂ related as bs) (hgood : ∀ a ∈ as, good a) :
    List.Forall₂ (fun a b => good a ∧ related a b) as bs := by
  induction h with
  | nil => exact .nil
  | cons hab _ ih =>
    exact .cons ⟨hgood _ List.mem_cons_self, hab⟩ (ih fun a ha => hgood a (List.mem_cons_of_mem _ ha))

/-- What was read from a value at some place. -/
def ReadFrom (shape : Shape) (v w : Value) : Prop := ∃ path, shape.read path v = .ok w

theorem map_eq_ok_iff {ε α β : Type} {f : α → β} {x : Except ε α} {b : β} :
    f <$> x = .ok b ↔ ∃ a, x = .ok a ∧ f a = b := by
  cases x <;> simp [Functor.map, Except.map]

theorem forall₂_of_gather {α : Type} {f : α → Reading} {as : List α} {values : List Value}
    (h : gather (as.map f) = .ok values) : List.Forall₂ (fun a w => f a = .ok w) as values := by
  have heq : List.Forall₂ (· = ·) (as.map f) (values.map .ok) := List.forall₂_eq_eq_eq ▸ gather_eq_ok h
  rwa [List.forall₂_map_left_iff, List.forall₂_map_right_iff] at heq

theorem read_list {item : Shape} {path : List String} {items : List Value} {w : Value}
    (h : (list item).read path (.list items) = .ok w) :
    ∃ values, w = .list values ∧ List.Forall₂ item.ReadFrom items values := by
  obtain ⟨values, hvalues, rfl⟩ := map_eq_ok_iff.mp h
  have hall : List.Forall₂ (fun x w => item.ReadFrom x.1 w) items.zipIdx values :=
    (forall₂_of_gather hvalues).imp fun x w hw => ⟨path ++ [toString x.2], hw⟩
  rw [← List.forall₂_map_left_iff, List.zipIdx_map_fst] at hall
  exact ⟨values, rfl, hall⟩

theorem read_table {item : Shape} {path : List String} {entries : Entries} {w : Value}
    (h : (table item).read path (.map entries) = .ok w) :
    ∃ got : Entries, w = .map got ∧ List.Forall₂ (fun e r => r.1 = e.1 ∧ item.ReadFrom e.2 r.2) entries got := by
  obtain ⟨values, hvalues, hw⟩ := bind_eq_ok_iff.mp h
  have hall : List.Forall₂ (fun e w => item.ReadFrom e.2 w) entries values :=
    (forall₂_of_gather hvalues).imp fun e w hw => ⟨path ++ [e.1.text?.getD ""], hw⟩
  refine ⟨_, (Except.ok.inj hw).symm, ?_⟩
  clear h hvalues hw
  induction hall with
  | nil => exact .nil
  | cons he _ ih => exact .cons ⟨rfl, he⟩ ih

/-! ## Numbers -/

theorem bounded_eq_ok {bounds : List Bound} {path : List String} {n : Number} {w : Value}
    (h : single path (bounded bounds n) = .ok w) : w = .number n ∧ broken? bounds n = none := by
  unfold bounded at h
  split at h
  · cases h
  · next hnone => exact ⟨(Except.ok.inj h).symm, hnone⟩

theorem read_integer {bounds : List Bound} {n : Int} {w : Value} (h : (integer bounds).ReadFrom (.int n) w) :
    w = .int n ∧ broken? bounds (.int n) = none := by
  obtain ⟨path, h⟩ := h
  exact bounded_eq_ok h

/-- A number is read as the double that it converts to, within its bounds. -/
theorem read_number {bounds : List Bound} {v w : Value} (hd : (number bounds).Declares v)
    (h : (number bounds).ReadFrom v w) :
    ∃ x, w = .float x ∧ v.toQuantity = .ok ⟨x, none⟩ ∧ broken? bounds (.float x) = none := by
  obtain ⟨path, h⟩ := h
  cases hd with
  | double x =>
    obtain ⟨rfl, hnone⟩ := bounded_eq_ok h
    exact ⟨x, rfl, rfl, hnone⟩
  | whole n =>
    have hread : readNumber (.int n) = match (Number.int n).toQuantity with
      | .ok q => .ok (.float q.value)
      | .error _ => .error .notNumber := by
      unfold readNumber Value.int Number.toFloat
      dsimp only
      cases (Number.int n).toQuantity <;> rfl
    replace h : single path (readNumber (.int n) >>= bounded bounds) = .ok w := h
    rw [hread] at h
    cases hinf : (nearestDouble n).isInf with
    | true =>
      have hquantity : (Number.int n).toQuantity = .error .integerBeyondDouble := if_pos hinf
      rw [hquantity] at h
      cases h
    | false =>
      have hquantity : (Number.int n).toQuantity = .ok ⟨nearestDouble n, none⟩ :=
        if_neg (Bool.eq_false_iff.mp hinf)
      rw [hquantity] at h
      obtain ⟨rfl, hnone⟩ := bounded_eq_ok h
      exact ⟨nearestDouble n, rfl, hquantity, hnone⟩

theorem read_optional {inner : Shape} {v w : Value} (h : (optional inner).ReadFrom v w) :
    (v = .null ∧ w = .null) ∨ inner.ReadFrom v w := by
  obtain ⟨path, h⟩ := h
  cases v with
  | null => exact .inl ⟨rfl, (Except.ok.inj h).symm⟩
  | _ => exact .inr ⟨path, h⟩

theorem read_optional_number {bounds : List Bound} {v w : Value} (hd : (optional (number bounds)).Declares v)
    (h : (optional (number bounds)).ReadFrom v w) :
    (v = .null ∧ w = .null) ∨ (number bounds).Declares v ∧ (number bounds).ReadFrom v w := by
  rcases read_optional h with hnull | hread
  · exact .inl hnull
  · cases hd with
    | null =>
      obtain ⟨path, hread⟩ := hread
      exact absurd hread nofun
    | some hd => exact .inr ⟨hd, hread⟩

theorem readFrom_null {inner : Shape} : (optional inner).ReadFrom .null .null := ⟨[], rfl⟩

/-! ## Plain values -/

/-- A plain value of the declared types is read as it is. -/
theorem Declares.read_eq {shape : Shape} {v w : Value} (hd : shape.Declares v) (hp : shape.isPlain = true)
    (h : shape.ReadFrom v w) : w = v := by
  induction hd generalizing w with
  | anything | text | switch =>
    obtain ⟨path, h⟩ := h
    exact (Except.ok.inj h).symm
  | integer n => exact (read_integer h).1
  | null =>
    obtain ⟨path, h⟩ := h
    exact (Except.ok.inj h).symm
  | some _ ih =>
    rcases read_optional h with ⟨rfl, rfl⟩ | h
    · rfl
    · exact ih hp h
  | @list item items _ ih =>
    obtain ⟨path, h⟩ := h
    obtain ⟨values, rfl, hall⟩ := read_list h
    rw [eq_of_forall₂ hall fun x hx w hw => ih x hx hp hw]
  | @table item entries _ _ ih =>
    obtain ⟨path, h⟩ := h
    obtain ⟨got, rfl, hall⟩ := read_table h
    rw [eq_of_forall₂ hall fun e he r hr => Prod.ext hr.1 (ih e he hp hr.2)]
  | whole | double | object => cases hp

/-! ## Objects -/

/-- The value that an object has for a field: what was read, or the default. -/
def Takes (entries : Entries) (f : Field) (w : Value) : Prop :=
  match given? entries f with
  | .some v => f.2.2.1.ReadFrom v w
  | none => f.2.2.2 = .some w

theorem takes_of_gather {fields : List Field} {path : List String} {entries : Entries} {values : List Value}
    (h : gather (readFields fields path entries) = .ok values) : List.Forall₂ (Takes entries) fields values := by
  have heq := gather_eq_ok h
  clear h
  induction fields generalizing values with
  | nil =>
    obtain rfl := List.map_eq_nil_iff.mp heq.symm
    exact .nil
  | cons f rest ih =>
    obtain ⟨name, other, shape, default⟩ := f
    simp only [readFields] at heq
    obtain ⟨w, ws, rfl, hw, hws⟩ := List.map_eq_cons_iff.mp heq.symm
    refine .cons ?_ (ih hws.symm)
    unfold Takes given?
    dsimp only
    cases hlookup : lookup entries name other with
    | some found =>
      rw [hlookup] at hw
      exact ⟨_, hw.symm⟩
    | none =>
      rw [hlookup] at hw
      cases default with
      | none => cases hw
      | some d => exact congrArg Option.some (Except.ok.inj hw).symm

/-- Entries under no spelling of a field. -/
def isOther (fields : List Field) (e : Value × Value) : Bool :=
  e.1.text?.all (!(fields.map (·.1) ++ fields.filterMap (·.2.1)).contains ·)

/-- How an object that was read has its entries from those of the declared types that were there. -/
structure Fills (keepsOthers : Bool) (fields : List Field) (entries got : Entries) : Prop where
  declares : ∀ f ∈ fields, ∀ v, given? entries f = .some v → f.2.2.1.Declares v
  takes : ∀ f ∈ fields, ∃ w, Entries.get? got f.1 = .some w ∧ Takes entries f w
  others : ∃ own : Entries, (∀ e ∈ own, ∃ f ∈ fields, e.1 = .text f.1) ∧
    got = own ++ if keepsOthers then entries.filter (isOther fields) else []

theorem get?_zip {fields : List Field} {values : List Value} {related : Field → Value → Prop}
    (h : List.Forall₂ related fields values) (hn : (fields.map (·.1)).Nodup) (others : Entries) :
    ∀ f ∈ fields, ∃ w, Entries.get? (((fields.map (·.1)).map Value.text).zip values ++ others) f.1 = .some w ∧
      related f w := by
  induction h with
  | nil => simp
  | @cons g w fields values hgw _ ih =>
    obtain ⟨hg, hn⟩ := List.nodup_cons.mp hn
    intro f hf
    rcases List.mem_cons.mp hf with rfl | hf
    · exact ⟨w, by simp [Entries.get?, Entries.find?, Value.same], hgw⟩
    · obtain ⟨x, hx, hfx⟩ := ih hn f hf
      have hne : f.1 ≠ g.1 := fun heq => hg (List.mem_map.mpr ⟨f, hf, heq⟩)
      refine ⟨x, ?_, hfx⟩
      simpa [Entries.get?, Entries.find?, Value.same, hne] using hx

theorem Declares.fills {keepsOthers : Bool} {fields : List Field} {v w : Value}
    (hd : (Shape.object keepsOthers fields).Declares v) (hn : (fields.map (·.1)).Nodup)
    (h : (Shape.object keepsOthers fields).ReadFrom v w) :
    ∃ entries got, v = .map entries ∧ w = .map got ∧ Fills keepsOthers fields entries got := by
  cases hd with
  | @object _ _ entries hfields =>
    obtain ⟨path, h⟩ := h
    obtain ⟨values, hvalues, hw⟩ := bind_eq_ok_iff.mp h
    have htakes := takes_of_gather hvalues
    refine ⟨entries, _, rfl, (Except.ok.inj hw).symm, hfields, get?_zip htakes hn _, _, fun e he => ?_, rfl⟩
    have hname : e.1 ∈ (fields.map (·.1)).map Value.text := (List.of_mem_zip he).1
    obtain ⟨name, hname, heq⟩ := List.mem_map.mp hname
    obtain ⟨f, hf, rfl⟩ := List.mem_map.mp hname
    exact ⟨f, hf, heq.symm⟩

namespace Fills

variable {keepsOthers : Bool} {fields : List Field} {entries got : Entries} {shape : Shape} {name other : String}
  {default : Value}

theorem given?_single (entries : Entries) (name : String) (shape : Shape) (default : Option Value) :
    given? entries (name, none, shape, default) = Entries.get? entries name := by
  unfold given? lookup
  dsimp only
  cases Entries.get? entries name <;> rfl

theorem given?_spelled (entries : Entries) (name other : String) (shape : Shape) (default : Option Value) :
    given? entries (name, .some other, shape, default) = Value.firstOf entries [name, other] := by
  unfold given? lookup Value.firstOf
  dsimp only
  cases hname : Entries.get? entries name with
  | some v => simp [hname]
  | none => cases hother : Entries.get? entries other <;> simp [hname, hother]

/-- A field without a default was there. -/
theorem required_of (h : Fills keepsOthers fields entries got) {f : Field} (hf : f ∈ fields) (hn : f.2.2.2 = none) :
    ∃ v w, given? entries f = .some v ∧ Entries.get? got f.1 = .some w ∧ f.2.2.1.Declares v ∧ f.2.2.1.ReadFrom v w := by
  obtain ⟨w, hw, htakes⟩ := h.takes f hf
  unfold Takes at htakes
  cases hgiven : given? entries f with
  | none =>
    rw [hgiven, hn] at htakes
    cases htakes
  | some v =>
    rw [hgiven] at htakes
    exact ⟨v, w, rfl, hw, h.declares f hf v hgiven, htakes⟩

/-- A field with a default was there or has its default. -/
theorem part_of (h : Fills keepsOthers fields entries got) {f : Field} (hf : f ∈ fields)
    (hdefault : f.2.2.2 = .some default) (hd : f.2.2.1.Declares default) (hr : f.2.2.1.ReadFrom default default) :
    ∃ w, Entries.get? got f.1 = .some w ∧ f.2.2.1.Declares ((given? entries f).getD default) ∧
      f.2.2.1.ReadFrom ((given? entries f).getD default) w := by
  obtain ⟨w, hw, htakes⟩ := h.takes f hf
  unfold Takes at htakes
  refine ⟨w, hw, ?_⟩
  cases hgiven : given? entries f with
  | none =>
    rw [hgiven, hdefault] at htakes
    obtain rfl := Option.some.inj htakes
    exact ⟨hd, hr⟩
  | some v =>
    rw [hgiven] at htakes
    exact ⟨h.declares f hf v hgiven, htakes⟩

/-- Where a field of a plain shape is missing, its default stands, and else what was there. -/
theorem plain_of (h : Fills keepsOthers fields entries got) {f : Field} (hf : f ∈ fields)
    (hp : f.2.2.1.isPlain = true) : Entries.get? got f.1 = (given? entries f).or f.2.2.2 := by
  obtain ⟨w, hw, htakes⟩ := h.takes f hf
  rw [hw]
  unfold Takes at htakes
  cases hgiven : given? entries f with
  | none =>
    rw [hgiven] at htakes
    exact htakes.symm
  | some v =>
    rw [hgiven] at htakes
    rw [(h.declares f hf v hgiven).read_eq hp htakes]
    rfl

theorem value (h : Fills keepsOthers fields entries got) (i : Nat) {default : Option Value}
    (hf : fields[i]? = .some (name, none, shape, default)) :
    ∃ w, Entries.get? got name = .some w ∧
      ((∃ v, Entries.get? entries name = .some v ∧ shape.Declares v ∧ shape.ReadFrom v w) ∨
        Entries.get? entries name = none ∧ default = .some w) := by
  obtain ⟨w, hw, htakes⟩ := h.takes _ (List.mem_of_getElem? hf)
  have hdeclares := h.declares _ (List.mem_of_getElem? hf)
  unfold Takes at htakes
  rw [given?_single] at htakes hdeclares
  refine ⟨w, hw, ?_⟩
  cases hgiven : Entries.get? entries name with
  | none =>
    rw [hgiven] at htakes
    exact .inr ⟨rfl, htakes⟩
  | some v =>
    rw [hgiven] at htakes
    exact .inl ⟨v, rfl, hdeclares v hgiven, htakes⟩

theorem required (h : Fills keepsOthers fields entries got) (i : Nat)
    (hf : fields[i]? = .some (name, none, shape, none)) :
    ∃ v w, Entries.get? entries name = .some v ∧ Entries.get? got name = .some w ∧ shape.Declares v ∧
      shape.ReadFrom v w := by
  rw [← given?_single entries name shape none]
  exact h.required_of (List.mem_of_getElem? hf) rfl

theorem part (h : Fills keepsOthers fields entries got) (i : Nat)
    (hf : fields[i]? = .some (name, none, shape, .some default)) (hd : shape.Declares default)
    (hr : shape.ReadFrom default default) :
    ∃ w, Entries.get? got name = .some w ∧ shape.Declares ((Entries.get? entries name).getD default) ∧
      shape.ReadFrom ((Entries.get? entries name).getD default) w := by
  rw [← given?_single entries name shape (.some default)]
  exact h.part_of (List.mem_of_getElem? hf) rfl hd hr

theorem plain (h : Fills keepsOthers fields entries got) (i : Nat)
    (hf : fields[i]? = .some (name, none, shape, .some default)) (hp : shape.isPlain = true) :
    (Entries.get? got name).getD default = (Entries.get? entries name).getD default := by
  rw [h.plain_of (List.mem_of_getElem? hf) hp, given?_single, Option.or_some, Option.getD_some]

theorem plainSpelled (h : Fills keepsOthers fields entries got) (i : Nat)
    (hf : fields[i]? = .some (name, .some other, shape, .some default)) (hp : shape.isPlain = true) :
    (Value.firstOf got [name, other]).getD default = (Value.firstOf entries [name, other]).getD default := by
  have hname := h.plain_of (List.mem_of_getElem? hf) hp
  rw [given?_spelled, Option.or_some] at hname
  rw [Value.firstOf, List.findSome?_cons, hname, Option.getD_some]

end Fills

/-! ## Lists and tables -/

theorem readFrom_text (s : String) : text.ReadFrom (.text s) (.text s) := ⟨[], rfl⟩

theorem readFrom_nil {item : Shape} : (list item).ReadFrom (.list []) (.list []) := ⟨[], rfl⟩

theorem readFrom_empty {item : Shape} : (table item).ReadFrom (.map []) (.map []) := ⟨[], rfl⟩

theorem Declares.items {item : Shape} {v w : Value} (hd : (Shape.list item).Declares v)
    (h : (Shape.list item).ReadFrom v w) :
    ∃ items values, v = .list items ∧ w = .list values ∧
      List.Forall₂ (fun x y => item.Declares x ∧ item.ReadFrom x y) items values := by
  cases hd with
  | @list _ items hitems =>
    obtain ⟨path, h⟩ := h
    obtain ⟨values, rfl, hall⟩ := read_list h
    exact ⟨items, values, rfl, rfl, forall₂_and_mem hall hitems⟩

theorem Declares.entries {item : Shape} {v w : Value} (hd : (Shape.table item).Declares v)
    (h : (Shape.table item).ReadFrom v w) :
    ∃ entries got : Entries, v = .map entries ∧ w = .map got ∧
      List.Forall₂ (fun e r => ((∃ key, e.1 = .text key) ∧ item.Declares e.2) ∧ r.1 = e.1 ∧ item.ReadFrom e.2 r.2)
        entries got := by
  cases hd with
  | @table _ entries hkeys hentries =>
    obtain ⟨path, h⟩ := h
    obtain ⟨got, rfl, hall⟩ := read_table h
    exact ⟨entries, got, rfl, rfl, forall₂_and_mem hall fun e he => ⟨hkeys e he, hentries e he⟩⟩

/-- A table of anything is read as it is. -/
theorem Declares.entries_anything {v w : Value} (hd : (Shape.table Shape.anything).Declares v)
    (h : (Shape.table Shape.anything).ReadFrom v w) : ∃ entries, v = .map entries ∧ w = .map entries := by
  have hsame := hd.read_eq rfl h
  obtain ⟨entries, -, rfl, -⟩ := hd.entries h
  exact ⟨entries, rfl, hsame⟩

end Shape
end CaptionAnimation.Service
