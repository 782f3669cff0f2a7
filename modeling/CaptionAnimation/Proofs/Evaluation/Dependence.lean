import CaptionAnimation.Helper.Standard
import CaptionAnimation.Proofs.Evaluation.Blame

/-! # What an evaluation depends on

An expression is evaluated on the names that it starts from and on nothing else of its context: where two contexts give
these names the same outcomes, the value is the same, and so is the error but for the location that it names. -/
namespace CaptionAnimation.Evaluation

open Expression

/-- Outcomes that are the same, but for the locations that their errors name. -/
inductive AgreeAt {α : Type} (l l' : String) : Except Failure α → Except Failure α → Prop where
  | value (a : α) : AgreeAt l l' (.ok a) (.ok a)
  | evaluation (cause : EvaluationError.Cause) (expression : String) (reference : Option String) :
    AgreeAt l l' (.error (.evaluation ⟨cause, expression, reference, some l⟩))
      (.error (.evaluation ⟨cause, expression, reference, some l'⟩))
  | malformed (e : SyntaxError) : AgreeAt l l' (.error (.malformed e)) (.error (.malformed e))
  | fault (f : Fault) : AgreeAt l l' (.error (.fault f)) (.error (.fault f))

namespace AgreeAt

variable {α β : Type} {l l' : String}

theorem bind {x y : Except Failure α} {f g : α → Except Failure β} (h : AgreeAt l l' x y)
    (hf : ∀ a, AgreeAt l l' (f a) (g a)) : AgreeAt l l' (x >>= f) (y >>= g) := by
  cases h with
  | value a => exact hf a
  | evaluation cause expression reference => exact .evaluation cause expression reference
  | malformed e => exact .malformed e
  | fault f => exact .fault f

theorem eq {x y : Except Failure α} (h : AgreeAt l l x y) : x = y := by
  cases h <;> rfl

/-- Writing the source into the errors leaves them in agreement. -/
theorem withSource {x y : Outcome} (h : AgreeAt l l' x y) (e : Expr) (source : Option String) :
    AgreeAt l l' (withSource e source x) (withSource e source y) := by
  cases h with
  | value v => exact .value v
  | malformed e => exact .malformed e
  | fault f => exact .fault f
  | evaluation cause expression reference =>
    unfold Evaluation.withSource
    dsimp only
    split
    · cases source with
      | some text => exact .evaluation cause text reference
      | none =>
        dsimp only
        cases e.source with
        | ok text => exact .evaluation cause text reference
        | error f => exact .fault f
    · exact .evaluation cause expression reference

/-- Conditions that agree hold alike. -/
theorem toOption_holds {x y : Outcome} (h : AgreeAt l l' x y) : (holds x).toOption = (holds y).toOption := by
  cases h <;> rfl

end AgreeAt

section Contexts

variable {c c' : Context} {helpers : Registry}

/-- The names that the expression starts from have the same outcomes in both contexts. -/
def SameRoots (c c' : Context) (e : Expr) : Prop := ∀ name ∈ e.rootNames, c.root name = c'.root name

theorem SameRoots.part {part e : Expr} (h : SameRoots c c' e) (hp : part ∈ e.children) : SameRoots c c' part := by
  intro name hname
  obtain ⟨n, hn, hroot⟩ := List.mem_filterMap.mp hname
  exact h name (List.mem_filterMap.mpr ⟨n, Expr.nodes_subset_of_mem_children hp hn, hroot⟩)

/-- Both contexts blame a node in the same way. -/
theorem agreeAt_blame (e : Expr) (cause : EvaluationError.Cause) :
    AgreeAt c.location c'.location (Scope.blame ⟨c, helpers⟩ e cause) (Scope.blame ⟨c', helpers⟩ e cause) := by
  unfold Scope.blame
  cases e.source with
  | ok text => exact .evaluation cause "" (some text)
  | error f => exact .fault f

theorem agreeAt_settle (e : Expr) (op : Operation) :
    AgreeAt c.location c'.location (Scope.settle ⟨c, helpers⟩ e op) (Scope.settle ⟨c', helpers⟩ e op) := by
  cases op with
  | ok v => exact .value v
  | error r =>
    cases r with
    | blame cause => exact agreeAt_blame e cause
    | fault f => exact .fault f

theorem agreeAt_settleCall (e : Expr) (x : Except Fault Value) :
    AgreeAt c.location c'.location (Scope.settleCall ⟨c, helpers⟩ e x) (Scope.settleCall ⟨c', helpers⟩ e x) := by
  cases x with
  | ok v => exact .value v
  | error f =>
    rw [settleCall_error, settleCall_error]
    exact agreeAt_settle e _

mutual

/-- The meaning of a tree depends on the names that it starts from, by recursion on the tree. -/
theorem agreeAt_meaning : (e : Expr) → SameRoots c c' e →
    AgreeAt c.location c'.location (meaning ⟨c, helpers⟩ e) (meaning ⟨c', helpers⟩ e)
  | .literal _ value, _ => .value value
  | .name pos name, h => by
    have hroot : c.root name = c'.root name := h name (List.mem_filterMap.mpr ⟨_, Expr.mem_nodes_self _, rfl⟩)
    rw [meaning, meaning, root_eq, root_eq, hroot]
    exact agreeAt_settle _ _
  | .array _ items, h => by
    rw [meaning, meaning]
    exact (agreeAt_meanings items fun e he => h.part he).bind fun values => .value (Value.list values)
  | .member pos obj name guarded, h => by
    rw [← bind_memberOp, ← bind_memberOp]
    exact (agreeAt_meaning obj (h.part (by simp [Expr.children]))).bind fun _ => agreeAt_settle _ _
  | .index pos obj key guarded, h => by
    rw [← bind_indexOp, ← bind_indexOp]
    refine (agreeAt_meaning obj (h.part (by simp [Expr.children]))).bind fun v => ?_
    have hkey : AgreeAt c.location c'.location (meaning ⟨c, helpers⟩ key) (meaning ⟨c', helpers⟩ key) :=
      agreeAt_meaning key (h.part (by simp [Expr.children]))
    -- a guarded index looks at the value before it goes to the key
    cases guarded with
    | false => exact hkey.bind fun _ => agreeAt_settle _ _
    | true =>
      cases v with
      | null => exact .value Value.null
      | _ => exact hkey.bind fun _ => agreeAt_settle _ _
  | .call pos name args, h => by
    rw [meaning, meaning]
    dsimp only
    cases helpers.find? name with
    | none => exact agreeAt_blame _ _
    | some helper =>
      dsimp only
      split
      · exact (agreeAt_meanings args fun e he => h.part he).bind fun _ => agreeAt_settleCall _ _
      · exact agreeAt_blame _ _
  | .prefixed pos op operand, h => by
    rw [meaning, meaning]
    exact (agreeAt_meaning operand (h.part (by simp [Expr.children]))).bind fun _ => agreeAt_settle _ _
  | .binary pos op left right, h => by
    rw [meaning, meaning]
    exact (agreeAt_meaning left (h.part (by simp [Expr.children]))).bind fun _ =>
      (agreeAt_meaning right (h.part (by simp [Expr.children]))).bind fun _ => agreeAt_settle _ _
  | .logical pos op left right, h => by
    rw [← bind_needsRight, ← bind_needsRight]
    refine (agreeAt_meaning left (h.part (by simp [Expr.children]))).bind fun v => ?_
    split
    · exact agreeAt_meaning right (h.part (by simp [Expr.children]))
    · exact .value v
  | .conditional pos test yes no, h => by
    rw [meaning, meaning]
    refine (agreeAt_meaning test (h.part (by simp [Expr.children]))).bind fun v => ?_
    split
    · exact agreeAt_meaning yes (h.part (by simp [Expr.children]))
    · exact agreeAt_meaning no (h.part (by simp [Expr.children]))
  | .unknown pos, _ => by
    rw [meaning, meaning]
    exact agreeAt_blame _ _

theorem agreeAt_meanings : (es : List Expr) → (∀ e ∈ es, SameRoots c c' e) →
    AgreeAt c.location c'.location (meanings ⟨c, helpers⟩ es) (meanings ⟨c', helpers⟩ es)
  | [], _ => .value []
  | e :: es, h => by
    rw [meanings, meanings]
    exact (agreeAt_meaning e (h e List.mem_cons_self)).bind fun v =>
      (agreeAt_meanings es fun d hd => h d (List.mem_cons_of_mem _ hd)).bind fun vs => .value (v :: vs)

end

end Contexts

/-- Where the names that an expression starts from have the same outcomes, an evaluation has the same outcome at the
same location, and holds or fails as a condition wherever it is made. -/
theorem outcome_of_sameRoots {c c' : Context} (helpers : Registry) {e : Expr} (h : SameRoots c c' e) :
    (c.location = c'.location →
      eval ⟨c, helpers⟩ e = eval ⟨c', helpers⟩ e ∧
        ∀ source, evaluate ⟨c, helpers⟩ e source = evaluate ⟨c', helpers⟩ e source) ∧
      ∀ source, (holds (evaluate ⟨c, helpers⟩ e source)).toOption =
        (holds (evaluate ⟨c', helpers⟩ e source)).toOption := by
  have agree : AgreeAt c.location c'.location (eval ⟨c, helpers⟩ e) (eval ⟨c', helpers⟩ e) := by
    rw [eval_of_meaning rfl, eval_of_meaning rfl]
    exact agreeAt_meaning e h
  refine ⟨fun hl => ?_, fun source => (agree.withSource e source).toOption_holds⟩
  rw [hl] at agree
  exact ⟨agree.eq, fun source => (agree.withSource e source).eq⟩

/-- The condition `variables.loud && totalWords > 2`. -/
def loudInThree : Expr :=
  .logical 0 .and (.member 0 (.name 0 "variables") "loud" false)
    (.binary 0 .greater (.name 0 "totalWords") (.literal 0 (.number (.int 2))))

/-- A word of the same id at one of three places. -/
def loudAt (place : Int) : Context where
  transcript := { segments := [], metadata := [], id := none }
  bindings := [(.text "loud", .bool true)]
  wordIndex := place
  totalWords := 3
  wordId := some "w"

theorem loudInThree_at_places :
    SameRoots (loudAt 0) (loudAt 2) loudInThree ∧ (loudAt 0).location = (loudAt 2).location ∧
      eval ⟨loudAt 0, .standard⟩ loudInThree = eval ⟨loudAt 2, .standard⟩ loudInThree ∧
      (eval ⟨loudAt 0, .standard⟩ loudInThree).toOption.any Value.truthy = true := by
  have h : SameRoots (loudAt 0) (loudAt 2) loudInThree := by
    intro name hname
    have : "variables" = name ∨ "totalWords" = name := by
      simpa [loudInThree, Expr.rootNames, Expr.nodes, Expr.nodesOn, Expr.children, Expr.name?] using hname
    rcases this with rfl | rfl <;> rfl
  exact ⟨h, rfl, ((outcome_of_sameRoots .standard h).1 rfl).1, by decide +kernel⟩

end CaptionAnimation.Evaluation
