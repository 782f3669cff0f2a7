import Mathlib.Data.Option.Basic

/-! # Outcomes that may be errors

How an outcome that is known to be a success or an error comes apart, and what holds of an outcome either way: `Meets`
takes a sequence of steps apart from the first to the last. -/
namespace CaptionAnimation

theorem bind_eq_ok_iff {ε α β : Type} {x : Except ε α} {f : α → Except ε β} {b : β} :
    (x >>= f) = .ok b ↔ ∃ a, x = .ok a ∧ f a = .ok b := by
  cases x <;> simp [bind, Except.bind]

theorem bind_eq_error_iff {ε α β : Type} {x : Except ε α} {f : α → Except ε β} {e : ε} :
    (x >>= f) = .error e ↔ x = .error e ∨ ∃ a, x = .ok a ∧ f a = .error e := by
  cases x <;> simp [bind, Except.bind]

theorem exists_ok_of_any {ε α : Type} {x : Except ε α} {p : α → Bool} (h : x.toOption.any p = true) :
    ∃ a, x = .ok a ∧ p a = true := by
  cases x with
  | error e => cases h
  | ok a => exact ⟨a, rfl, h⟩

theorem exists_ok_of_isOk {ε α : Type} {x : Except ε α} (h : x.isOk = true) : ∃ a, x = .ok a := by
  cases x with
  | error e => cases h
  | ok a => exact ⟨a, rfl⟩

theorem exists_error_of_isOk {ε α : Type} {x : Except ε α} (h : x.isOk = false) : ∃ e, x = .error e := by
  cases x with
  | error e => exact ⟨e, rfl⟩
  | ok a => cases h

/-- The value has one property, or else the error has the other. -/
def Meets {ε α : Type} (faults : ε → Prop) (results : α → Prop) : Except ε α → Prop
  | .ok a => results a
  | .error f => faults f

namespace Meets

variable {ε α β : Type} {faults : ε → Prop} {results : α → Prop} {further : β → Prop}

theorem bind {x : Except ε α} {f : α → Except ε β} (hx : Meets faults results x)
    (hf : ∀ a, results a → Meets faults further (f a)) : Meets faults further (x >>= f) := by
  cases x with
  | error e => exact hx
  | ok a => exact hf a hx

theorem mono {faults' : ε → Prop} {results' : α → Prop} {x : Except ε α} (hx : Meets faults results x)
    (hf : ∀ e, faults e → faults' e) (hr : ∀ a, results a → results' a) : Meets faults' results' x := by
  cases x with
  | error e => exact hf e hx
  | ok a => exact hr a hx

theorem mapM_mem {f : α → Except ε β} {as : List α} (hf : ∀ a ∈ as, Meets faults further (f a)) :
    Meets faults (fun bs => ∀ b ∈ bs, further b) (as.mapM f) := by
  induction as with
  | nil => exact List.forall_mem_nil _
  | cons a as ih =>
    rw [List.mapM_cons]
    exact (hf a List.mem_cons_self).bind fun b hb => (ih fun c hc => hf c (List.mem_cons_of_mem _ hc)).bind
      fun bs hbs => List.forall_mem_cons.mpr ⟨hb, hbs⟩

theorem mapM {f : α → Except ε β} (hf : ∀ a, Meets faults further (f a)) (as : List α) :
    Meets faults (fun bs => ∀ b ∈ bs, further b) (as.mapM f) :=
  mapM_mem fun a _ => hf a

theorem foldlM {f : β → α → Except ε β} (hf : ∀ b a, Meets faults further (f b a)) (as : List α) {b : β}
    (hb : further b) : Meets faults further (as.foldlM f b) := by
  induction as generalizing b with
  | nil => exact hb
  | cons a as ih => exact (hf b a).bind fun c hc => ih hc

end Meets
end CaptionAnimation
