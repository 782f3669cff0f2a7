import CaptionAnimation.Proofs.Number.Nearest
import CaptionAnimation.Proofs.Number.Order
import CaptionAnimation.Proofs.Selection.Options
import CaptionAnimation.Proofs.Service.Reading

/-! # Options of a body

Options of a body that have the declared types are the same whether they are read from what was sent or from what
reading the body made of that, but for a threshold that may have become a double of the same value. -/
namespace CaptionAnimation

open Service Service.Shape

namespace Options

/-- Options that differ in nothing but the spelling of the threshold. -/
structure Matches (o o' : Options) : Prop where
  others : o' = { o with threshold := o'.threshold }
  threshold : ∃ m n, o.threshold.comparable? = some m ∧ o'.threshold.comparable? = some n ∧ m.exact = n.exact

variable {o o' : Options}

theorem Matches.skips_eq (h : o.Matches o') : o.skips = o'.skips := by
  obtain ⟨m, n, hm, hn, hexact⟩ := h.threshold
  funext w
  have hlt : (Number.double w.confidence).lt m = (Number.double w.confidence).lt n := by
    rw [Number.lt, Number.lt, hexact]
  rw [skips, skips, hm, hn, h.others, Option.any_some, Option.any_some, hlt]

variable {entries got : Entries} {fields : List Field} {keepsOthers : Bool}

theorem ofValue_map (settings : Settings) (entries : Entries) :
    ofValue settings (.map entries) = check (fieldsOf settings (entryOf entries)) := by
  cases entries with
  | nil => rfl
  | cons e rest => exact ofValue_eq settings rfl rfl

theorem Matches.refl {x : Float} (h : o.threshold = .float x) : o.Matches o :=
  ⟨rfl, .float x, .float x, by rw [h]; rfl, by rw [h]; rfl, rfl⟩

end Options
end CaptionAnimation
