import CaptionAnimation.Proofs.Evaluation.Blame
import CaptionAnimation.Proofs.Evaluation.Refusals

/-! # Expressions whose references are there

Where every name, every variable looked up by a fixed name and every helper of an expression is there, no evaluation
fails for the lack of one. -/
namespace CaptionAnimation.Evaluation

open Expression

/-- What an expression refers to is there: its names, the variables it looks up by a fixed name, and its helpers, for as
many arguments as it gives them. -/
structure Provides (s : Scope) (e : Expr) : Prop where
  roots : ∀ name ∈ e.rootNames, ∃ v, s.context.root name = .ok v
  lookups : ∀ key ∈ e.variableNames, ∃ v, Entries.get? s.context.bindings key = some v
  calls : ∀ call ∈ e.calls, ∃ helper, s.helpers.find? call.1 = some helper ∧ helper.accepts call.2 = true

/-- No evaluation of `e` fails for the lack of something that `e` refers to: each lookup of a variable by a fixed name
has a value, and each error has another cause, at a node that is no such lookup. -/
structure Resolved (s : Scope) (e : Expr) : Prop where
  lookups : ∀ n ∈ e.nodes, ∀ key, n.lookedUp? = some key → ∃ v, eval s n = .ok v
  failures : ∀ source err, evaluate s e source = .error (.evaluation err) →
    err.cause.isDangling = false ∧ ∃ n ∈ e.nodes, n.lookedUp? = none ∧ Breaks s n (.blame err.cause) ∧
      n.source.toOption = err.reference

/-- A variable that has a value is found by its name, whichever way it is looked up. -/
theorem meaning_of_lookedUp? {s : Scope} {n : Expr} {key : String} {v : Value} (hn : n.lookedUp? = some key)
    (hv : Entries.get? s.context.bindings key = some v) : meaning s n = .ok v := by
  unfold Expr.lookedUp? at hn
  split at hn
  · next pos root key' guarded =>
    obtain rfl : key' = key := Option.some.inj hn
    rw [← bind_memberOp]
    show s.settle _ (memberOp (.readOnly s.context.bindings) key' guarded) = .ok v
    simp [memberOp, fieldOp, Value.field?, hv, bind, Except.bind, pure, Except.pure, Scope.settle]
  · next pos root at' key' guarded =>
    obtain rfl : key' = key := Option.some.inj hn
    rw [meaning_index (v := .readOnly s.context.bindings) rfl (by simp)]
    show s.settle _ (indexOp (.readOnly s.context.bindings) (.text key')) = .ok v
    simp [indexOp, fieldOp, Value.field?, hv, bind, Except.bind, pure, Except.pure, Scope.settle]
  · cases hn

/-- A node breaks for the lack of something where a name has no value, a helper is not there, or a helper does not take
so many arguments. -/
theorem Breaks.missing {s : Scope} {n : Expr} {cause : EvaluationError.Cause} (h : Breaks s n (.blame cause))
    (hd : cause.isDangling = true) :
    (∃ pos name f, n = .name pos name ∧ s.context.root name = .error f ∧ cause = .refused f) ∨
      (∃ pos name args, n = .call pos name args ∧ s.helpers.find? name = none ∧ cause = .unknownHelper name) ∨
        ∃ pos name args helper, n = .call pos name args ∧ s.helpers.find? name = some helper ∧
          helper.accepts args.length = false ∧ cause = .wrongArity name helper.arity args.length := by
  have ofValues {r : Refusal} (hr : r.ofValues = true) (he : r = .blame cause) : False := by
    subst he
    simp [Refusal.ofValues, hd] at hr
  generalize hr : Refusal.blame cause = r at h
  cases h with
  | name hf => exact .inl ⟨_, _, _, rfl, hf, Refusal.blame.inj hr⟩
  | member hv hf =>
    rcases memberOp_error hf with hr' | ⟨f, rfl, -⟩
    · exact (ofValues hr' hr.symm).elim
    · cases hr
  | index hv hk hg hf =>
    rcases indexOp_error hf with hr' | ⟨f, i, rfl, -⟩ | ⟨f, name, rfl, -⟩
    · exact (ofValues hr' hr.symm).elim
    · cases hr
    · cases hr
  | prefixed hv hf => exact (ofValues (prefixOp_error hf) hr.symm).elim
  | binary hv hw hf =>
    rcases binaryOp_error hf with hr' | ⟨f, rfl, -⟩
    · exact (ofValues hr' hr.symm).elim
    · cases hr
  | unknownHelper hf => exact .inr (.inl ⟨_, _, _, rfl, hf, Refusal.blame.inj hr⟩)
  | wrongArity hf ha => exact .inr (.inr ⟨_, _, _, _, rfl, hf, ha, Refusal.blame.inj hr⟩)
  | @call pos name args helper values f hf ha hv hrun =>
    split at hr
    · next habsorbs =>
      obtain rfl : cause = .refused f := Refusal.blame.inj hr
      cases f with
      | unknownReference name => cases habsorbs
      | unavailable root => cases habsorbs
      | _ => cases hd
    · cases hr
  | unknown =>
    obtain rfl : cause = .unknownNode := Refusal.blame.inj hr
    cases hd

/-- A node whose references are there does not break for the lack of one. -/
theorem Breaks.isDangling_eq_false {s : Scope} {e n : Expr} (h : Provides s e) (hn : n ∈ e.nodes)
    {cause : EvaluationError.Cause} (hb : Breaks s n (.blame cause)) : cause.isDangling = false := by
  refine Bool.eq_false_iff.mpr fun hd => ?_
  rcases hb.missing hd with ⟨pos, name, f, rfl, hf, -⟩ | ⟨pos, name, args, rfl, hf, -⟩ |
    ⟨pos, name, args, helper, rfl, hf, ha, -⟩
  · obtain ⟨v, hv⟩ := h.roots name (List.mem_filterMap.mpr ⟨_, hn, rfl⟩)
    rw [hv] at hf
    cases hf
  · obtain ⟨helper, hh, -⟩ := h.calls (name, args.length) (List.mem_filterMap.mpr ⟨_, hn, rfl⟩)
    rw [hh] at hf
    cases hf
  · obtain ⟨helper', hh, ha'⟩ := h.calls (name, args.length) (List.mem_filterMap.mpr ⟨_, hn, rfl⟩)
    obtain rfl : helper = helper' := Option.some.inj (hf.symm.trans hh)
    rw [ha] at ha'
    cases ha'

/-- The error of a node names the cause and quotes the source of the node. -/
theorem settle_eq_evaluation {s : Scope} {n : Expr} {r : Refusal} {err : EvaluationError}
    (h : s.settle n (.error r) = .error (.evaluation err)) :
    r = .blame err.cause ∧ n.source.toOption = err.reference := by
  cases r with
  | fault f => cases h
  | blame cause =>
    unfold Scope.settle Scope.blame at h
    cases hs : n.source with
    | error f => simp [hs] at h
    | ok text =>
      rw [hs] at h
      obtain rfl : _ = err := Failure.evaluation.inj (Except.error.inj h)
      exact ⟨rfl, rfl⟩

theorem settle_error_ne_ok (s : Scope) (n : Expr) (r : Refusal) (v : Value) : s.settle n (.error r) ≠ .ok v := by
  cases r with
  | fault f => nofun
  | blame cause =>
    unfold Scope.settle Scope.blame
    cases n.source <;> nofun

/-- Writing the source into an error leaves its cause and the part to blame as they are. -/
theorem withSource_eq_evaluation {e : Expr} {source : Option String} {outcome : Outcome} {err : EvaluationError}
    (h : withSource e source outcome = .error (.evaluation err)) :
    ∃ own, outcome = .error (.evaluation own) ∧ own.cause = err.cause ∧ own.reference = err.reference := by
  unfold withSource at h
  split at h
  · next own =>
    refine ⟨own, rfl, ?_⟩
    split at h
    · split at h
      · obtain rfl : _ = err := Failure.evaluation.inj (Except.error.inj h)
        exact ⟨rfl, rfl⟩
      · split at h
        · obtain rfl : _ = err := Failure.evaluation.inj (Except.error.inj h)
          exact ⟨rfl, rfl⟩
        · cases h
    · obtain rfl : _ = err := Failure.evaluation.inj (Except.error.inj h)
      exact ⟨rfl, rfl⟩
  · next hne => exact absurd h (hne err)

/-- The error of an expression is that of one of its nodes. -/
theorem exists_of_evaluate {s : Scope} {e : Expr} {source : Option String} {err : EvaluationError}
    (h : evaluate s e source = .error (.evaluation err)) :
    ∃ n ∈ e.nodes, Breaks s n (.blame err.cause) ∧ n.source.toOption = err.reference := by
  obtain ⟨own, howner, hcause, hreference⟩ := withSource_eq_evaluation h
  obtain ⟨n, hn, r, hb, hsettle⟩ := failsIn_of_error e (meaning_of_eval howner)
  obtain ⟨rfl, hsource⟩ := settle_eq_evaluation hsettle
  exact ⟨n, hn, hcause ▸ hb, hsource.trans hreference⟩

theorem resolved_of_provides {s : Scope} {e : Expr} (h : Provides s e) : Resolved s e := by
  have hvalue : ∀ n ∈ e.nodes, ∀ key, n.lookedUp? = some key → ∃ v, meaning s n = .ok v := by
    intro n hn key hkey
    obtain ⟨v, hv⟩ := h.lookups key (List.mem_filterMap.mpr ⟨n, hn, hkey⟩)
    exact ⟨v, meaning_of_lookedUp? hkey hv⟩
  refine ⟨fun n hn key hkey => ?_, fun source err herr => ?_⟩
  · obtain ⟨v, hv⟩ := hvalue n hn key hkey
    exact ⟨v, eval_of_meaning hv⟩
  · obtain ⟨n, hn, hb, hsource⟩ := exists_of_evaluate herr
    refine ⟨hb.isDangling_eq_false h hn, n, hn, ?_, hb, hsource⟩
    cases hkey : n.lookedUp? with
    | none => rfl
    | some key =>
      obtain ⟨v, hv⟩ := hvalue n hn key hkey
      exact absurd (hb.meaning_eq.symm.trans hv) (settle_error_ne_ok s n _ v)

end CaptionAnimation.Evaluation
