import CaptionAnimation.Proofs.Expression.Grammar

/-! # The tables of the readers

What the readers ask of single tokens, in terms of the grammar: which token joins two operands at a level, which
stands for a value by itself, and which closes a bracket. -/
namespace CaptionAnimation.Expression

variable {l : Level} {nested : Reader Expr} {ts rest : List Token}

@[simp] theorem Token.isOp_iff {t : Token} {o : Operator} : t.isOp o = true ↔ t.lexeme = .op o := by
  unfold Token.isOp
  split <;> simp_all

theorem expectOp_eq_ok {o : Operator} : expectOp o ts = .ok ((), rest) ↔ ∃ t, t.lexeme = .op o ∧ ts = t :: rest := by
  cases ts with
  | nil => simp [expectOp]
  | cons t ts =>
    by_cases ht : t.lexeme = .op o
    · simp only [expectOp, Token.isOp_iff, ht, if_true, Except.ok.injEq, Prod.mk.injEq, true_and, List.cons.injEq]
      exact ⟨fun h => ⟨t, ht, rfl, h⟩, fun ⟨_, _, _, h⟩ => h⟩
    · simp only [expectOp, Token.isOp_iff, ht, if_false, reduceCtorEq, false_iff]
      rintro ⟨u, hu, heq⟩
      exact ht (by rw [(List.cons.inj heq).1]; exact hu)

theorem expectOp_cons {o : Operator} {t : Token} (ht : t.lexeme = .op o) : expectOp o (t :: rest) = .ok ((), rest) :=
  expectOp_eq_ok.mpr ⟨t, ht, rfl⟩

/-- What a token of the level does with its two sides. -/
def Level.joint? (l : Level) (t : Token) : Option Joint := if t.level? = some l then some t.join else none

theorem Level.joint?_eq_some {t : Token} {joint : Joint} (h : l.joint? t = some joint) :
    t.level? = some l ∧ joint = t.join := by
  unfold Level.joint? at h
  split at h
  · next hl => exact ⟨hl, (Option.some.inj h).symm⟩
  · cases h

theorem infixLevels_eq : infixLevels =
    [Level.product, .sum, .comparison, .equality, .conjunction, .disjunction, .coalescence].map Level.joint? := by
  simp only [infixLevels, List.map_cons, List.map_nil, List.cons.injEq, and_true]
  refine ⟨?_, ?_, ?_, ?_, ?_, ?_, ?_⟩
  all_goals
    funext t
    obtain ⟨lexeme, pos⟩ := t
    cases lexeme with
    | op o => cases o <;> rfl
    | name s =>
      by_cases hin : s = "in"
      · subst hin; rfl
      by_cases hand : s = "and"
      · subst hand; rfl
      by_cases hor : s = "or"
      · subst hor; rfl
      simp [Level.joint?, Token.level?, Lexeme.connective?, productJoint, sumJoint, comparisonJoint, equalityJoint,
        andJoint, orJoint, coalesceJoint, binaryJoint, hin, hand, hor]
    | _ => rfl

/-- What holds of an operand reader and passes from each level to the next looser one holds of the loosest. -/
theorem binaryExpr_climbs {P : Stratum → Reader Expr → Prop} {operand : Reader Expr} (hoperand : P .operand operand)
    (hchain : ∀ (l : Level) (r : Reader Expr), P l.tighter r → P (.level l) (chain r l.joint?)) :
    P (.level .coalescence) (binaryExpr operand) := by
  have hsum := hchain .sum _ (hchain .product _ hoperand)
  have hequality := hchain .equality _ (hchain .comparison _ hsum)
  have hdisjunction := hchain .disjunction _ (hchain .conjunction _ hequality)
  unfold binaryExpr
  rw [infixLevels_eq]
  exact hchain .coalescence _ hdisjunction

/-- What holds of the reader of whole expressions when no level is left, and passes to both readers with one level more,
holds of them with any number of levels. -/
theorem readers_deepen {P : Stratum → Nat → Reader Expr → Prop}
    (hnone : P .whole 0 fun ts => .error ⟨.shallower, ts⟩)
    (hwhole : ∀ (n : Nat) (branch operand : Reader Expr), P .whole n branch → P .operand (n + 1) operand →
      P .whole (n + 1) (conditionalExpr branch operand))
    (hoperand : ∀ (n : Nat) (deeper : Option (Reader Expr)) (whole : Reader Expr), (∀ r ∈ deeper, P .operand n r) →
      deeper.isSome ∨ n = 0 → P .whole n whole → P .operand (n + 1) (prefixExpr deeper whole)) (n : Nat) :
    P .whole n (readers n).1 ∧ P .operand (n + 1) (readers n).2 := by
  induction n with
  | zero =>
    have hdeepest : ∀ r ∈ (none : Option (Reader Expr)), P .operand 0 r := by simp
    exact ⟨hnone, hoperand 0 none _ hdeepest (.inr rfl) hnone⟩
  | succ n ih =>
    have hnext : P .whole (n + 1) (readers (n + 1)).1 := hwhole n _ _ ih.1 ih.2
    have hdeeper : ∀ r ∈ some (readers n).2, P .operand (n + 1) r := by simpa using ih.2
    exact ⟨hnext, hoperand (n + 1) _ _ hdeeper (.inl rfl) hnext⟩

/-- Readers of single values stop after their one token; the brackets go on. -/
theorem primary_eq (t : Token) : primary nested (t :: ts) =
    match t.value? with
    | some e => .ok (e, ts)
    | none =>
      match t.lexeme with
      | .op .openParen => do
        let (e, rest) ← nested ts
        let ((), rest) ← expectOp .closeParen rest
        return (e, rest)
      | .op .openBracket => do
        let (items, rest) ← itemsUntil .closeBracket nested ts
        return (.array t.pos items, rest)
      | .name _ => .error ⟨.operand, t :: ts⟩
      | _ => .error ⟨.value, t :: ts⟩ := by
  obtain ⟨lexeme, pos⟩ := t
  cases lexeme with
  | op o => cases o <;> rfl
  | name s =>
    by_cases htrue : s = "true"
    · subst htrue; rfl
    by_cases hfalse : s = "false"
    · subst hfalse; rfl
    by_cases hnull : s = "null"
    · subst hnull; rfl
    by_cases hs : s ∈ operatorNames <;> simp [primary, Token.value?, hs]
  | _ => rfl

end CaptionAnimation.Expression
