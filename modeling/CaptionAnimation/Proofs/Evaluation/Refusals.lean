import CaptionAnimation.Evaluation.Operators

/-! # Why operators refuse

An operator blames the values it is given, never something that the expression refers to. What it does not blame on
them is a fault of the data: the duration of a transcript that is no number, an index too long to be written, or an
operation on numbers. -/
namespace CaptionAnimation

/-- A cause that says that something the expression refers to is not there. -/
def EvaluationError.Cause.isDangling : EvaluationError.Cause → Bool
  | refused (.unknownReference _) | refused (.unavailable _) | unknownHelper _ | wrongArity _ _ _ => true
  | _ => false

namespace Evaluation

open Expression

/-- A refusal that is blamed on values. -/
def Refusal.ofValues : Refusal → Bool
  | blame cause => !cause.isDangling
  | fault _ => false

theorem ofValues_of_refuse {cause : EvaluationError.Cause} {r : Refusal} (hc : cause.isDangling = false)
    (h : refuse cause = .error r) : r.ofValues = true := by
  obtain rfl : Refusal.blame cause = r := Except.error.inj h
  rw [Refusal.ofValues, hc]
  rfl

theorem prefixOp_error {op : PrefixOp} {v : Value} {r : Refusal} (h : prefixOp op v = .error r) :
    r.ofValues = true := by
  unfold prefixOp at h
  split at h
  · cases h
  · cases h
  · cases h
  · exact ofValues_of_refuse rfl h

theorem fieldOp_error {v : Value} {name : String} {r : Refusal} (h : fieldOp v name = .error r) :
    ∃ f, r = .fault f ∧ v.field? name = .error f := by
  unfold fieldOp at h
  split at h
  · cases h
  · next f hf => exact ⟨f, (Except.error.inj h).symm, hf⟩

theorem memberOp_error {v : Value} {name : String} {guarded : Bool} {r : Refusal}
    (h : memberOp v name guarded = .error r) :
    r.ofValues = true ∨ ∃ f, r = .fault f ∧ v.field? name = .error f := by
  unfold memberOp at h
  split at h
  · split at h
    · cases h
    · exact .inl (ofValues_of_refuse rfl h)
  · cases hf : fieldOp v name with
    | error r' =>
      rw [hf] at h
      obtain rfl : r' = r := Except.error.inj h
      exact .inr (fieldOp_error hf)
    | ok found =>
      rw [hf] at h
      cases found with
      | some w => cases h
      | none =>
        cases guarded with
        | true => cases h
        | false => exact .inl (ofValues_of_refuse rfl h)

theorem indexItems_error {items : List Value} {key : Value} {r : Refusal} (h : indexItems items key = .error r) :
    r.ofValues = true ∨ ∃ f i, r = .fault f ∧ key = .int i ∧ Number.intText i = .error f := by
  unfold indexItems at h
  split at h
  · next i =>
    split at h
    · cases h
    · split at h
      · exact .inl (ofValues_of_refuse rfl h)
      · next f hf => exact .inr ⟨f, i, (Except.error.inj h).symm, rfl, hf⟩
  · exact .inl (ofValues_of_refuse rfl h)

theorem indexOp_error {v key : Value} {r : Refusal} (h : indexOp v key = .error r) :
    r.ofValues = true ∨ (∃ f i, r = .fault f ∧ key = .int i ∧ Number.intText i = .error f) ∨
      ∃ f name, r = .fault f ∧ key = .text name ∧ v.field? name = .error f := by
  unfold indexOp at h
  split at h
  · exact (indexItems_error h).imp_right .inl
  · exact (indexItems_error h).imp_right .inl
  · exact (indexItems_error h).imp_right .inl
  · split at h
    · next name =>
      cases hf : fieldOp v name with
      | error r' =>
        rw [hf] at h
        obtain rfl : r' = r := Except.error.inj h
        obtain ⟨f, hr, hv⟩ := fieldOp_error hf
        exact .inr (.inr ⟨f, name, hr, rfl, hv⟩)
      | ok found =>
        rw [hf] at h
        cases found with
        | some w => cases h
        | none => exact .inl (ofValues_of_refuse rfl h)
    · exact .inl (ofValues_of_refuse rfl h)

theorem compareOp_error {op : BinaryOp} {number : Number → Number → Bool} {text : String → String → Bool}
    {v w : Value} {r : Refusal} (h : compareOp op number text v w = .error r) : r.ofValues = true := by
  unfold compareOp at h
  split at h
  · cases h
  · cases h
  · exact ofValues_of_refuse rfl h

theorem withinOp_error {v w : Value} {r : Refusal} (h : withinOp v w = .error r) : r.ofValues = true := by
  unfold withinOp at h
  split at h
  · split at h
    · cases h
    · exact ofValues_of_refuse rfl h
  · cases h
  · cases h
  · split at h
    · exact ofValues_of_refuse rfl h
    · cases h
  · split at h
    · exact ofValues_of_refuse rfl h
    · cases h
  · exact ofValues_of_refuse rfl h

def divides : BinaryOp → Bool
  | .divide | .remainder => true
  | _ => false

/-- A fault of an operation on numbers, other than an overflow or a division by zero. -/
structure NumericFault (op : BinaryOp) (v w : Value) (f : Fault) : Prop where
  numbers : ∃ a b, v = .number a ∧ w = .number b ∧ numericOp op a b = .error f ∧ (divides op && b.isZero) = false
  category : f.category ≠ .overflow

theorem arithmeticOp_number (op : BinaryOp) (a b : Number) :
    arithmeticOp op (.number a) (.number b) =
      if divides op && b.isZero then refuse .divisionByZero
      else
        match numericOp op a b with
        | .ok n => .ok (.number n)
        | .error f => if f.category = .overflow then refuse (.overflow op.spelling) else .error (.fault f) := by
  cases op <;> rfl

theorem arithmeticOp_error {op : BinaryOp} {v w : Value} {r : Refusal} (h : arithmeticOp op v w = .error r) :
    r.ofValues = true ∨ ∃ f, r = .fault f ∧ NumericFault op v w f := by
  by_cases hn : ∃ a b, v = .number a ∧ w = .number b
  · obtain ⟨a, b, rfl, rfl⟩ := hn
    rw [arithmeticOp_number] at h
    split at h
    · exact .inl (ofValues_of_refuse rfl h)
    · next hz =>
      split at h
      · cases h
      · next f hf =>
        split at h
        · exact .inl (ofValues_of_refuse rfl h)
        · next hc =>
          exact .inr ⟨f, (Except.error.inj h).symm, ⟨a, b, rfl, rfl, hf, Bool.eq_false_iff.mpr hz⟩, hc⟩
  · unfold arithmeticOp at h
    split at h
    · next a b => exact absurd ⟨a, b, rfl, rfl⟩ hn
    · exact .inl (ofValues_of_refuse rfl h)

theorem binaryOp_error {op : BinaryOp} {v w : Value} {r : Refusal} (h : binaryOp op v w = .error r) :
    r.ofValues = true ∨ ∃ f, r = .fault f ∧ NumericFault op v w f := by
  unfold binaryOp at h
  split at h
  · cases h
  · cases h
  · exact .inl (compareOp_error h)
  · exact .inl (compareOp_error h)
  · exact .inl (compareOp_error h)
  · exact .inl (compareOp_error h)
  · exact .inl (withinOp_error h)
  · unfold addOp at h
    split at h
    · cases h
    · exact arithmeticOp_error h
  · exact arithmeticOp_error h

end Evaluation
end CaptionAnimation
