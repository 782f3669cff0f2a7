import CaptionAnimation.Proofs.Except
import CaptionAnimation.Value.Conversion
import CaptionAnimation.Value.Display

/-! # What can be written

A value can be written in a message unless it holds an integer of too many digits. Plain data without such an integer
can be written, and so can whatever is read out of them. -/
namespace CaptionAnimation

theorem Number.intText_of_lt {n : Int} (h : n.natAbs < tenTo digitLimit) : intText n = .ok (toString n) := if_pos h

namespace Value

/-- The value has a text in messages. -/
def Writable (v : Value) : Prop := ∃ s, v.display = .ok s

theorem exists_displayItems {items : List Value} (h : ∀ x ∈ items, x.Writable) :
    ∃ texts, displayItems items = .ok texts := by
  induction items with
  | nil => exact ⟨[], rfl⟩
  | cons x xs ih =>
    obtain ⟨s, hs⟩ := h x List.mem_cons_self
    obtain ⟨rest, hrest⟩ := ih fun y hy => h y (List.mem_cons_of_mem _ hy)
    exact ⟨s :: rest, by simp only [displayItems, hs, hrest]; rfl⟩

theorem exists_displayEntries {entries : Entries} (h : ∀ e ∈ entries, e.1.Writable ∧ e.2.Writable) :
    ∃ texts, displayEntries entries = .ok texts := by
  induction entries with
  | nil => exact ⟨[], rfl⟩
  | cons e es ih =>
    obtain ⟨⟨k, hk⟩, ⟨s, hs⟩⟩ := h e List.mem_cons_self
    obtain ⟨rest, hrest⟩ := ih fun y hy => h y (List.mem_cons_of_mem _ hy)
    exact ⟨(k ++ ": " ++ s) :: rest, by simp only [displayEntries, hk, hs, hrest]; rfl⟩

theorem Writable.tuple {items : List Value} (h : ∀ x ∈ items, x.Writable) : (tuple items).Writable := by
  obtain ⟨texts, htexts⟩ := exists_displayItems h
  exact ⟨parenthesized texts, by simp only [display, htexts]; rfl⟩

/-- Plain data: maps with text keys, lists, and what stands in them, with integers that can be written. -/
inductive IsData : Value → Prop where
  | null : IsData null
  | bool (b : Bool) : IsData (bool b)
  | int {n : Int} (h : n.natAbs < tenTo Number.digitLimit) : IsData (int n)
  | quantity (q : Quantity) : IsData (quantity q)
  | text (s : String) : IsData (text s)
  | list {items : List Value} (h : ∀ x ∈ items, IsData x) : IsData (list items)
  | map {entries : Entries} (hk : ∀ e ∈ entries, ∃ key, e.1 = Value.text key) (hv : ∀ e ∈ entries, IsData e.2) :
    IsData (map entries)

attribute [simp] IsData.null IsData.bool IsData.quantity IsData.text

@[simp]
theorem isData_int {n : Int} : IsData (int n) ↔ n.natAbs < tenTo Number.digitLimit :=
  ⟨fun h => by cases h; assumption, .int⟩

@[simp]
theorem isData_list {items : List Value} : IsData (list items) ↔ ∀ x ∈ items, x.IsData :=
  ⟨fun h => by cases h; assumption, .list⟩

@[simp]
theorem isData_map {entries : Entries} :
    IsData (map entries) ↔ (∀ e ∈ entries, ∃ key, e.1 = Value.text key) ∧ ∀ e ∈ entries, e.2.IsData :=
  ⟨fun h => by cases h with | map hk hv => exact ⟨hk, hv⟩, fun h => .map h.1 h.2⟩

theorem IsData.writable {v : Value} (h : v.IsData) : v.Writable := by
  induction h with
  | null | bool | quantity | text => exact ⟨_, rfl⟩
  | @int n hn =>
    have hdisplay : (Value.int n).display = Number.intText n := rfl
    exact ⟨_, hdisplay.trans (Number.intText_of_lt hn)⟩
  | @list items _ ih =>
    obtain ⟨texts, htexts⟩ := exists_displayItems ih
    exact ⟨"[" ++ ", ".intercalate texts ++ "]", by simp only [display, htexts]; rfl⟩
  | @map entries hk _ ih =>
    obtain ⟨texts, htexts⟩ := exists_displayEntries fun e he => by
      obtain ⟨key, hkey⟩ := hk e he
      exact ⟨⟨_, by rw [hkey]; rfl⟩, ih e he⟩
    exact ⟨braced texts, by simp only [display, htexts]; rfl⟩

theorem IsData.exists_plain {v : Value} (h : v.IsData) : ∃ s, v.plain = .ok s := by
  have hw := h.writable
  cases h with
  | text s => exact ⟨s, rfl⟩
  | _ => exact hw

theorem IsData.get? {entries : Entries} (h : IsData (Value.map entries)) {key : String} {v : Value}
    (hv : Entries.get? entries key = some v) : v.IsData := by
  obtain ⟨e, he, rfl⟩ := Option.map_eq_some_iff.mp hv
  exact (isData_map.mp h).2 e (List.mem_of_find?_eq_some he)

end Value
end CaptionAnimation
