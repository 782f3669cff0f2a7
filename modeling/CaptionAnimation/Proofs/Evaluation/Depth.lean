import CaptionAnimation.Proofs.Evaluation.Frames
import CaptionAnimation.Proofs.Expression.Acceptance

/-! # The depth of what is read

Ten frames are enough for each level of nesting: one for a bracket, a call or a prefix operator, one for a chain of
accesses, one for a chain of each of the seven infix levels, and one for a conditional. Chains may be as long as they
like. Since at most 64 levels may enclose a point, no source that is read needs more than 640 frames. -/
namespace CaptionAnimation.Expression

open Evaluation

/-- The kind of the chains that the operators of a level form. -/
def Level.chain : Level → Chain
  | product | sum | comparison | equality => .binary
  | conjunction | disjunction | coalescence => .logical

/-- The place of a level, the tightest being the first. -/
def Level.rank : Level → Nat
  | product => 1
  | sum => 2
  | comparison => 3
  | equality => 4
  | conjunction => 5
  | disjunction => 6
  | coalescence => 7

/-- An operator joins two operands to a link of the chains of its level. -/
theorem Lexeme.chain?_join {lexeme : Lexeme} {l : Level} {c : Connective} (h : lexeme.connective? = some (l, c))
    (pos : Nat) (left right : Expr) : (c.join pos left right).chain? = some l.chain := by
  unfold Lexeme.connective? at h
  split at h
  · next o => cases o <;> cases h <;> rfl
  all_goals cases h <;> rfl

theorem Token.join_link {t : Token} {l : Level} (h : t.level? = some l) (left right : Expr) :
    (t.join left right).chain? = some l.chain ∧ (t.join left right).left? = some left ∧
      (t.join left right).right? = some right := by
  obtain ⟨⟨level, c⟩, hc, rfl⟩ := Option.map_eq_some_iff.mp h
  rw [Token.join, hc]
  refine ⟨Lexeme.chain?_join hc t.pos left right, ?_⟩
  cases c <;> exact ⟨rfl, rfl⟩

theorem Token.spine_join {t : Token} {l : Level} (h : t.level? = some l) (left right : Expr) :
    (t.join left right).spine l.chain = left.spine l.chain ++ [right] := by
  obtain ⟨hk, hl, hr⟩ := Token.join_link h left right
  rw [Expr.spine_link hk hl, hr]
  rfl

/-- How many frames the trees of a stratum need, by the nesting of the phrase. Chains of accesses and of the operators
of a level may go on, so that it is their parts that are counted. -/
def Shallow : Stratum → Phrase → Prop
  | .primary, p => p.tree.evalDepth ≤ 10 * p.nesting + 1
  | .access, p => ∀ part ∈ p.tree.spine .access, part.evalDepth ≤ 10 * p.nesting + 1
  | .operand, p => p.tree.evalDepth ≤ 10 * p.nesting + 2
  | .level l, p => ∀ part ∈ p.tree.spine l.chain, part.evalDepth ≤ 10 * p.nesting + 1 + l.rank
  | .whole, p => p.tree.evalDepth ≤ 10 * (p.nesting + 1)
  | .list, p | .tail, p => ∀ item ∈ p.trees, item.evalDepth ≤ 10 * p.nesting

/-- An operand of a level needs a frame for each tighter level that it may be a chain of. -/
theorem Shallow.of_tighter {l : Level} {p : Phrase} (h : Shallow l.tighter p) :
    p.tree.evalDepth ≤ 10 * p.nesting + 1 + l.rank := by
  cases l with
  | product => exact h
  | _ => exact Expr.evalDepth_le_of_spine h

theorem Shallow.of_coalescence {p : Phrase} (h : Shallow (.level .coalescence) p) :
    p.tree.evalDepth ≤ 10 * p.nesting + 9 := Expr.evalDepth_le_of_spine h

theorem Token.value?_parts {t : Token} {e : Expr} (h : t.value? = some e) : e.parts = [] := by
  unfold Token.value? at h
  split at h
  case h_6 =>
    split at h
    · cases h
    · cases h
      rfl
  all_goals cases h <;> rfl

/-- Every production keeps the bounds, by induction on the derivation. -/
theorem Derives.shallow {S : Stratum} {p : Phrase} (h : Derives S p) : Shallow S p := by
  induction h with
  | @value t hv =>
    obtain ⟨e, he⟩ := Option.isSome_iff_exists.mp hv
    have htree : (Phrase.value t).tree = e := by rw [Phrase.tree, he, Option.getD_some]
    refine Expr.evalDepth_le_iff.mpr ?_
    simp [htree, Token.value?_parts he]
  | group _ _ _ ih => exact Nat.le_succ_of_le ih
  | array _ _ _ ih => exact Expr.evalDepth_le_iff.mpr ih
  | primary _ ih => exact fun part hp => Nat.le_trans (Expr.evalDepth_le_of_mem_spine hp) ih
  | member _ _ ih =>
    simp only [Shallow, Phrase.tree, Expr.spine_member]
    exact ih
  | index _ _ _ _ ihobj ihkey =>
    simp only [Shallow, Phrase.nesting] at ihobj ihkey ⊢
    rw [Phrase.tree, Expr.spine_index]
    intro part hp
    rcases List.mem_append.mp hp with hp | hp
    · have := ihobj part hp
      omega
    · obtain rfl := List.mem_singleton.mp hp
      omega
  | call _ _ _ _ _ _ ihargs =>
    simp only [Shallow, Phrase.nesting] at ihargs ⊢
    intro part hp
    obtain rfl := List.mem_singleton.mp hp
    refine Expr.evalDepth_le_iff.mpr fun arg harg => ?_
    have := ihargs arg harg
    omega
  | access _ ih => exact Expr.evalDepth_le_of_spine ih
  | prefixed _ _ ih =>
    simp only [Shallow, Phrase.nesting] at ih ⊢
    refine Expr.evalDepth_le_iff.mpr (List.forall_mem_singleton.mpr ?_)
    omega
  | tighter _ ih => exact fun part hp => Nat.le_trans (Expr.evalDepth_le_of_mem_spine hp) ih.of_tighter
  | infixed _ hop _ ihleft ihright =>
    -- the left side lies on the spine, so that a chain needs no more frames the longer it is
    have hright := ihright.of_tighter
    simp only [Shallow, Phrase.nesting] at ihleft hright ⊢
    rw [Phrase.tree, Token.spine_join hop]
    intro part hp
    rcases List.mem_append.mp hp with hp | hp
    · have := ihleft part hp
      omega
    · obtain rfl := List.mem_singleton.mp hp
      omega
  | binary _ ih => exact Nat.le_succ_of_le ih.of_coalescence
  | @conditional test yes no q colon _ _ _ _ _ ihtest ihyes ihno =>
    have htest := ihtest.of_coalescence
    simp only [Shallow, Phrase.nesting] at ihyes ihno ⊢
    have hparts : ∀ part ∈ [test.tree, yes.tree, no.tree],
        part.evalDepth ≤ 10 * max test.nesting (max (yes.nesting + 1) (no.nesting + 1)) + 9 := by
      simp only [List.forall_mem_cons, List.not_mem_nil, false_implies, implies_true, and_true]
      omega
    exact Expr.evalDepth_le_iff.mpr hparts
  | noItems => simp [Shallow, Phrase.trees]
  | items _ _ ihfirst ihrest =>
    simp only [Shallow, Phrase.nesting] at ihfirst ihrest ⊢
    refine List.forall_mem_cons.mpr ⟨by omega, fun item hitem => ?_⟩
    have := ihrest item hitem
    omega
  | noFurther => simp [Shallow, Phrase.trees]
  | further _ _ _ ihnext ihrest =>
    simp only [Shallow, Phrase.nesting] at ihnext ihrest ⊢
    refine List.forall_mem_cons.mpr ⟨by omega, fun item hitem => ?_⟩
    have := ihrest item hitem
    omega

/-- Whatever its length, a source that is read needs at most 640 frames, ten for each level that may be nested: within
them its tree has the value that evaluating it gives. -/
theorem evalDepth_le_of_parse {source : String} {e : Expr} (h : parse source = .ok e) :
    e.evalDepth ≤ 640 ∧ 640 = 10 * maxNesting ∧ ∀ s : Scope, evalWithin s 640 e = .done (eval s e) := by
  have hdepth : e.evalDepth ≤ 640 := by
    cases hscan : scan source with
    | error err => simp [parse, hscan, bind, Except.bind] at h
    | ok ts =>
      obtain ⟨p, hp, rfl⟩ := (parse_eq_ok_iff hscan).mp h
      have hshallow : p.tree.evalDepth ≤ 10 * (p.nesting + 1) := hp.derives.shallow
      have := hp.nesting
      omega
  refine ⟨hdepth, rfl, fun s => ?_⟩
  rw [eval_of_meaning rfl]
  exact evalWithin_eq_meaning hdepth

/-- A sum of six is one chain of five links. -/
theorem evalDepth_sum_of_six :
    ∃ e, parse "1 + 2 + 3 * 4 + 5 + 6 - 7" = .ok e ∧ (e.links .binary).length = 5 ∧
      e.evalDepth ≤ 640 ∧ 640 = 10 * maxNesting ∧ ∀ s : Scope, evalWithin s 640 e = .done (eval s e) := by
  obtain ⟨e, he, hlinks⟩ : ∃ e, parse "1 + 2 + 3 * 4 + 5 + 6 - 7" = .ok e ∧
      ((e.links .binary).length == 5) = true := exists_ok_of_any (by decide +kernel)
  exact ⟨e, he, eq_of_beq hlinks, evalDepth_le_of_parse he⟩

end CaptionAnimation.Expression
