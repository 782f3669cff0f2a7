import CaptionAnimation.Proofs.Evaluation.Origin
import CaptionAnimation.Transcript.Reading
import Mathlib

/-! # Faults that escape

An expression that was read fails with an error of the expression, but for three faults: the duration of a transcript
may be no number, an index outside a list may be too long to be written into the message, and a pattern may look too far
behind. -/
namespace CaptionAnimation.Evaluation

open Expression

/-! ## Operators -/

def isArithmetic : BinaryOp → Bool
  | .add | .subtract | .multiply | .divide | .remainder => true
  | _ => false

/-- Once overflows and divisions by zero are set aside, arithmetic has no faults. -/
theorem NumericFault.isArithmetic_eq_false {op : BinaryOp} {v w : Value} {f : Fault} (h : NumericFault op v w f) :
    isArithmetic op = false := by
  obtain ⟨a, b, -, -, hf, hz⟩ := h.numbers
  have overflow_only (hx : Number.OverflowsOnly (numericOp op a b)) : False := by
    rw [hf] at hx
    exact h.category hx
  cases op with
  | add | subtract | multiply => exact (overflow_only (Number.combine_overflows _ _ a b)).elim
  | divide => exact (overflow_only (Number.div_overflows a b)).elim
  | remainder => exact (overflow_only (Number.mod_overflows a (by simpa [divides] using hz))).elim
  | _ => rfl

/-- An operator with a spelling refuses the values it is given, and nothing else. -/
theorem binaryOp_ofValues {op : BinaryOp} {v w : Value} {r : Refusal} (hop : ∀ spelling, op ≠ .other spelling)
    (h : binaryOp op v w = .error r) : r.ofValues = true := by
  have of_arithmetic (ha : isArithmetic op = true) (h : arithmeticOp op v w = .error r) : r.ofValues = true := by
    rcases arithmeticOp_error h with hr | ⟨f, -, hf⟩
    · exact hr
    · rw [hf.isArithmetic_eq_false] at ha
      cases ha
  cases op with
  | equal | notEqual => cases h
  | less | lessEqual | greater | greaterEqual => exact compareOp_error h
  | within => exact withinOp_error h
  | add =>
    unfold binaryOp addOp at h
    dsimp only at h
    split at h
    · cases h
    · exact of_arithmetic rfl h
  | subtract | multiply | divide | remainder => exact of_arithmetic rfl h
  | other spelling => exact absurd rfl (hop spelling)

/-! ## Nodes -/

/-- The faults of a node that are no errors of the expression. -/
inductive Escapes (c : Context) : Expr → Fault → Prop where
  /-- The duration of a transcript is no number. -/
  | member {pos : Nat} {obj : Expr} {guarded : Bool} {t : Transcript} {f : Fault}
    (hobj : eval ⟨c, .standard⟩ obj = .ok (.transcript t)) (ht : c.Shows t) (hf : t.duration = .error f) :
    Escapes c (.member pos obj "duration" guarded) f
  | index {pos : Nat} {obj key : Expr} {guarded : Bool} {t : Transcript} {f : Fault}
    (hobj : eval ⟨c, .standard⟩ obj = .ok (.transcript t)) (hkey : eval ⟨c, .standard⟩ key = .ok (.text "duration"))
    (ht : c.Shows t) (hf : t.duration = .error f) : Escapes c (.index pos obj key guarded) f
  /-- An index outside a list has too many digits to be written. -/
  | longIndex {pos : Nat} {obj key : Expr} {guarded : Bool} {i : Int}
    (hkey : eval ⟨c, .standard⟩ key = .ok (.int i)) (hi : tenTo Number.digitLimit ≤ i.natAbs) :
    Escapes c (.index pos obj key guarded) .tooManyDigits
  /-- A pattern looks too far behind. -/
  | lookBehind {pos : Nat} {args : List Expr} : Escapes c (.call pos "matches" args) .looksTooFarBehind

theorem intText_error {i : Int} {f : Fault} (h : Number.intText i = .error f) :
    f = .tooManyDigits ∧ tenTo Number.digitLimit ≤ i.natAbs := by
  unfold Number.intText at h
  generalize tenTo Number.digitLimit = limit at h ⊢
  split at h
  · cases h
  · next hi => exact ⟨(Except.error.inj h).symm, Nat.not_lt.mp hi⟩

theorem ne_fault_of_ofValues {r : Refusal} {f : Fault} (h : r.ofValues = true) : r ≠ .fault f := by
  rintro rfl
  cases h

variable {c : Context}

/-- A node that was read breaks with a fault in one of these ways only. -/
theorem Breaks.escapes {n : Expr} {f : Fault} (hn : n.Written) (h : Breaks ⟨c, .standard⟩ n (.fault f)) :
    Escapes c n f := by
  generalize hr : Refusal.fault f = r at h
  cases h with
  | name hf => cases hr
  | @member pos obj name guarded v r hv h =>
    rcases memberOp_error h with hvalues | ⟨f', rfl, hf'⟩
    · exact absurd hr.symm (ne_fault_of_ofValues hvalues)
    · obtain rfl : f = f' := Refusal.fault.inj hr
      obtain ⟨t, rfl, rfl, hd⟩ := Value.eq_transcript_of_field?_error hf'
      exact .member (eval_of_meaning hv) (shows_of_meaning obj (hn.part List.mem_cons_self) hv (.refl _)) hd
  | @index pos obj key guarded v k r hv hk hg h =>
    rcases indexOp_error h with hvalues | ⟨f', i, rfl, rfl, hf'⟩ | ⟨f', name, rfl, rfl, hf'⟩
    · exact absurd hr.symm (ne_fault_of_ofValues hvalues)
    · obtain rfl : f = f' := Refusal.fault.inj hr
      obtain ⟨rfl, hi⟩ := intText_error hf'
      exact .longIndex (eval_of_meaning hk) hi
    · obtain rfl : f = f' := Refusal.fault.inj hr
      obtain ⟨t, rfl, rfl, hd⟩ := Value.eq_transcript_of_field?_error hf'
      exact .index (eval_of_meaning hv) (eval_of_meaning hk)
        (shows_of_meaning obj (hn.part List.mem_cons_self) hv (.refl _)) hd
  | prefixed hv h => exact absurd hr.symm (ne_fault_of_ofValues (prefixOp_error h))
  | @binary pos op left right v w r hv hw h =>
    refine absurd hr.symm (ne_fault_of_ofValues (binaryOp_ofValues ?_ h))
    rintro spelling rfl
    exact absurd (hn _ (Expr.mem_nodes_self _)) nofun
  | unknownHelper hf => cases hr
  | wrongArity hf ha => cases hr
  | @call pos name args helper values f' hf ha hv hrun =>
    -- of the faults of a helper only one is not absorbed
    have hanswers := Helper.standard_answers (mem_of_find? hf).1 values
    rw [hrun] at hanswers
    split at hr
    · cases hr
    · next habsorbed =>
      obtain rfl : f = f' := Refusal.fault.inj hr
      rcases hanswers with habs | ⟨hname, rfl⟩
      · exact absurd habs habsorbed
      · obtain rfl : helper.name = name := (mem_of_find? hf).2
        rw [hname]
        exact .lookBehind
  | unknown => cases hr

/-! ## Expressions -/

/-- The evaluation of a tree that was read fails with an error of the evaluation, or with a fault of one of its nodes. -/
theorem evaluate_fails {e : Expr} (he : e.Written) {text : String} {failure : Failure}
    (h : evaluate ⟨c, .standard⟩ e (some text) = .error failure) :
    failure.ofExpression = true ∨ ∃ f, failure = .fault f ∧ ∃ n ∈ e.nodes, Escapes c n f := by
  unfold evaluate withSource at h
  split at h
  · split at h
    · obtain rfl := Except.error.inj h
      exact .inl rfl
    · obtain rfl := Except.error.inj h
      exact .inl rfl
  · obtain ⟨n, hn, r, hbreaks, hsettle⟩ := failsIn_of_error e (meaning_of_eval h)
    cases r with
    | fault f =>
      obtain rfl : Failure.fault f = failure := Except.error.inj hsettle
      exact .inr ⟨f, rfl, n, hn, hbreaks.escapes fun m hm => he m (Expr.nodes_subset_of_mem hn hm)⟩
    | blame cause =>
      obtain ⟨source, hsource⟩ := he.source hn
      unfold Scope.settle Scope.blame at hsettle
      rw [hsource] at hsettle
      obtain rfl := Except.error.inj hsettle
      exact .inl rfl

/-- The evaluation of a text gives a value or an error of the expression, unless a node of the expression has a fault of
the data; the duration of the transcript is such a fault when it is no number. -/
theorem failures_of_expression (c : Context) (text : String) :
    (∀ failure, evaluateText ⟨c, .standard⟩ (.text text) = .error failure →
      failure.ofExpression = true ∨
        ∃ e f, parse text = .ok e ∧ failure = .fault f ∧ ∃ n ∈ e.nodes, Escapes c n f) ∧
    ∀ f, c.transcript.duration = .error f →
      evaluateText ⟨c, .standard⟩ (.text "audioData.duration") = .error (.fault f) := by
  refine ⟨fun failure h => ?_, fun f hf => ?_⟩
  · unfold evaluateText at h
    dsimp only at h
    split at h
    · next e he =>
      rcases evaluate_fails (written_of_parse he) h with hof | ⟨f, hf, hn⟩
      · exact .inl hof
      · exact .inr ⟨e, f, he, hf, hn⟩
    · obtain rfl := Except.error.inj h
      exact .inl rfl
  · have hparse : parse "audioData.duration" = .ok (.member 9 (.name 0 "audioData") "duration" false) := by
      cbv
    have hmeaning : meaning ⟨c, .standard⟩ (.member 9 (.name 0 "audioData") "duration" false) = .error (.fault f) := by
      rw [← bind_memberOp]
      show Scope.settle _ _ (memberOp (.transcript c.transcript) "duration" false) = _
      simp [memberOp, fieldOp, Value.field?, Transcript.field?, hf, bind, Except.bind, Scope.settle]
    simp only [evaluateText, hparse, evaluate, eval_of_meaning hmeaning]
    rfl

/-- A transcript without words whose declared duration is a text. -/
def wordless : Value :=
  .map [(.text "segments", .list []), (.text "metadata", .map [(.text "duration", .text "abc")])]

/-- What variables see of it. -/
def wordlessContext : Context := .forVariables ⟨[], [(.text "duration", .text "abc")], none⟩ []

/-- Its duration is no number, and the fault is that of the one access in the expression. -/
theorem wordless_escapes :
    wordlessContext.transcript.duration = .error (.notFloatText "abc") ∧
      evaluateText ⟨wordlessContext, .standard⟩ (.text "audioData.duration") = .error (.fault (.notFloatText "abc")) ∧
      ∃ e f, parse "audioData.duration" = .ok e ∧ Failure.fault (.notFloatText "abc") = .fault f ∧
        ∃ n ∈ e.nodes, Escapes wordlessContext n f := by
  have hduration : wordlessContext.transcript.duration = .error (.notFloatText "abc") := by cbv
  obtain ⟨hfailures, hescape⟩ := failures_of_expression wordlessContext "audioData.duration"
  refine ⟨hduration, hescape _ hduration, ?_⟩
  exact (hfailures _ (hescape _ hduration)).resolve_left Bool.false_ne_true

/-- The transcript is accepted and the expression is read, but its evaluation ends in no error of the expression. -/
theorem unreadable_duration :
    Transcript.ofValue wordless = .ok wordlessContext.transcript ∧
      (parse "audioData.duration").isOk = true ∧
      evaluateText ⟨wordlessContext, .standard⟩ (.text "audioData.duration") = .error (.fault (.notFloatText "abc")) ∧
      (Failure.fault (.notFloatText "abc")).ofExpression = false :=
  ⟨by cbv, by cbv, by cbv, rfl⟩

end CaptionAnimation.Evaluation
