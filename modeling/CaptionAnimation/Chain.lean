/-! # Pending steps

A computation whose remaining steps wait in a list. -/
namespace CaptionAnimation

/-- Applies the steps in order to the result so far, until one fails. -/
def applyAll (start : Except ε α) (steps : List (α → Except ε α)) : Except ε α :=
  steps.foldl (fun result step => result.bind step) start

theorem applyAll_cons (start : Except ε α) (step : α → Except ε α) (steps : List (α → Except ε α)) :
    applyAll start (step :: steps) = applyAll (start.bind step) steps := rfl

end CaptionAnimation
