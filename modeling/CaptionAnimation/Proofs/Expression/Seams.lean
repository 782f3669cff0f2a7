import CaptionAnimation.Proofs.Expression.Grammar

/-! # Where a phrase begins and ends

A phrase of a stratum ends before any token that no phrase of the stratum could go on with. `reach` orders the tokens
by the tightest stratum that they go on with, so that this is one comparison. -/
namespace CaptionAnimation.Expression

variable {S : Stratum} {p : Phrase} {t : Token} {ts : List Token}

def Level.index : Level → Nat
  | product => 0
  | sum => 1
  | comparison => 2
  | equality => 3
  | conjunction => 4
  | disjunction => 5
  | coalescence => 6

/-- Accesses come first, then the levels, `?` and `,`; other tokens go on with nothing. -/
def Token.reach (t : Token) : Nat :=
  match t.level? with
  | some l => l.index + 1
  | none =>
    match t.lexeme with
    | .op .dot | .op .guardedDot | .op .openBracket | .op .openParen => 0
    | .op .question => 8
    | .op .comma => 9
    | _ => 10

/-- A token of at least this reach does not go on with a phrase of the stratum. -/
def Stratum.bound : Stratum → Nat
  | primary => 0
  | access | operand => 1
  | level l => l.index + 2
  | whole => 9
  | list | tail => 10

/-- No token at the head goes on with what ends below the bound. -/
def Quiet (bound : Nat) (ts : List Token) : Prop := ∀ t ∈ ts.head?, bound ≤ t.reach

theorem quiet_nil (b : Nat) : Quiet b [] := by simp [Quiet]

theorem quiet_cons {b : Nat} : Quiet b (t :: ts) ↔ b ≤ t.reach := by simp [Quiet]

theorem Quiet.mono {b b' : Nat} (h : Quiet b ts) (hb : b' ≤ b) : Quiet b' ts :=
  fun t ht => Nat.le_trans hb (h t ht)

theorem Level.tighter_bound (l : Level) : l.tighter.bound = l.index + 1 := by cases l <;> rfl

theorem reach_of_level {l : Level} (h : t.level? = some l) : t.reach = l.index + 1 := by
  simp [Token.reach, h]

theorem reach_of_op {o : Operator} (h : t.lexeme = .op o) : t.reach = Token.reach ⟨.op o, 0⟩ := by
  simp [Token.reach, Token.level?, h]

theorem quiet_of_op {b : Nat} {o : Operator} (h : t.lexeme = .op o) (ho : b ≤ Token.reach ⟨.op o, 0⟩) :
    Quiet b (t :: ts) :=
  quiet_cons.mpr (by rwa [reach_of_op h])

/-- The brackets that close lists of items. -/
def Operator.Closes (o : Operator) : Prop := o = .closeParen ∨ o = .closeBracket

theorem Operator.Closes.quiet {o : Operator} (ho : o.Closes) (h : t.lexeme = .op o) :
    Quiet Stratum.tail.bound (t :: ts) := by
  rcases ho with rfl | rfl <;> exact quiet_of_op h (by decide)

theorem bound_le_level {l : Level} (h : t.level? = some l) : l.tighter.bound ≤ t.reach := by
  exact Nat.le_of_eq (by rw [l.tighter_bound, reach_of_level h])

/-- After a phrase of the level comes no operator of the level. -/
theorem Quiet.level?_ne {l : Level} (h : Quiet (Stratum.level l).bound (t :: ts)) : t.level? ≠ some l := by
  intro hl
  have hreach := quiet_cons.mp h
  rw [reach_of_level hl] at hreach
  simp only [Stratum.bound] at hreach
  omega

theorem Quiet.lexeme_ne {b : Nat} {o : Operator} (h : Quiet b (t :: ts)) (ho : Token.reach ⟨.op o, 0⟩ < b) :
    t.lexeme ≠ .op o := by
  intro hop
  have hreach := quiet_cons.mp h
  rw [reach_of_op hop] at hreach
  omega

/-- Further items begin with a comma, which ends the item before them. -/
theorem Derives.quiet_tail {rest : List Token} (h : Derives .tail p) (hquiet : Quiet Stratum.tail.bound rest) :
    Quiet Stratum.whole.bound (p.tokens ++ rest) := by
  cases h with
  | noFurther => exact hquiet.mono (by decide)
  | further hcomma _ _ => exact quiet_of_op hcomma (by decide)

/-- A token that a primary begins with. -/
def Token.Opens (t : Token) : Prop :=
  t.value?.isSome ∨ t.lexeme = .op .openParen ∨ t.lexeme = .op .openBracket

theorem Token.Opens.prefixOp?_eq (h : t.Opens) : prefixOp? t = none := by
  obtain ⟨lexeme, pos⟩ := t
  cases lexeme with
  | op o => cases o <;> simp_all [Token.Opens, Token.value?, prefixOp?]
  | name s =>
    by_cases hnot : s = "not"
    · subst hnot
      simp [Token.Opens, Token.value?, operatorNames] at h
    · simp [prefixOp?, hnot]
  | _ => rfl

/-- Every expression begins with a primary or, from the operands on, with a prefix operator. -/
theorem Derives.first (h : Derives S p) (hlist : S ≠ .list) (htail : S ≠ .tail) :
    ∃ t ts, p.tokens = t :: ts ∧ (t.Opens ∨ (prefixOp? t).isSome ∧ S ≠ .primary ∧ S ≠ .access) := by
  induction h with
  | value hv => exact ⟨_, _, rfl, .inl (.inl hv)⟩
  | group ho => exact ⟨_, _, rfl, .inl (.inr (.inl ho))⟩
  | array ho => exact ⟨_, _, rfl, .inl (.inr (.inr ho))⟩
  | prefixed hop => exact ⟨_, _, rfl, .inr ⟨hop, by simp⟩⟩
  | primary _ ih =>
    obtain ⟨t, ts, hts, ht⟩ := ih (by simp) (by simp)
    exact ⟨t, ts, hts, by simpa using ht⟩
  | access _ ih =>
    obtain ⟨t, ts, hts, ht⟩ := ih (by simp) (by simp)
    exact ⟨t, ts, hts, .inl (by simpa using ht)⟩
  | @tighter l p _ ih =>
    obtain ⟨t, ts, hts, ht⟩ := ih (by cases l <;> simp [Level.tighter]) (by cases l <;> simp [Level.tighter])
    exact ⟨t, ts, hts, ht.imp_right fun hop => ⟨hop.1, by simp⟩⟩
  | binary _ ih =>
    obtain ⟨t, ts, hts, ht⟩ := ih (by simp) (by simp)
    exact ⟨t, ts, hts, ht.imp_right fun hop => ⟨hop.1, by simp⟩⟩
  | conditional _ _ _ _ _ ih =>
    obtain ⟨t, ts, hts, ht⟩ := ih (by simp) (by simp)
    exact ⟨t, _, by rw [Phrase.tokens, hts]; rfl, ht.imp_right fun hop => ⟨hop.1, by simp⟩⟩
  | member _ _ ih | index _ _ _ _ ih | call _ _ _ _ _ ih | infixed _ _ _ ih =>
    obtain ⟨t, ts, hts, ht⟩ := ih (by simp) (by simp)
    exact ⟨t, _, by rw [Phrase.tokens, hts]; rfl, by simpa using ht⟩
  | noItems | items => exact absurd rfl hlist
  | noFurther | further => exact absurd rfl htail

theorem Derives.first_access (h : Derives .access p) : ∃ t ts, p.tokens = t :: ts ∧ prefixOp? t = none := by
  obtain ⟨t, ts, hts, hopens⟩ := h.first (by simp) (by simp)
  exact ⟨t, ts, hts, Token.Opens.prefixOp?_eq (by simpa using hopens)⟩

theorem Derives.first_whole (h : Derives .whole p) :
    ∃ t ts, p.tokens = t :: ts ∧ ∀ o : Operator, o.Closes → t.lexeme ≠ .op o := by
  obtain ⟨t, ts, hts, hfirst⟩ := h.first (by simp) (by simp)
  refine ⟨t, ts, hts, fun o ho hclose => ?_⟩
  rcases hfirst with hopens | hop
  · rcases ho with rfl | rfl <;> simp [Token.Opens, Token.value?, hclose] at hopens
  · rcases ho with rfl | rfl <;> simp [prefixOp?, hclose] at hop

theorem Derives.ne_prefixed (h : Derives .access p) (hop : (prefixOp? t).isSome) (ts' : List Token) :
    t :: ts ≠ p.tokens ++ ts' := by
  obtain ⟨u, more, hmore, hu⟩ := h.first_access
  rw [hmore, List.cons_append]
  intro hts
  obtain ⟨rfl, -⟩ := List.cons.inj hts
  simp [hu] at hop

theorem Derives.ne_closing (h : Derives .whole p) {o : Operator} (ho : o.Closes) (ht : t.lexeme = .op o)
    (ts' : List Token) : t :: ts ≠ p.tokens ++ ts' := by
  obtain ⟨u, more, hmore, hopening⟩ := h.first_whole
  rw [hmore, List.cons_append]
  intro hts
  obtain ⟨rfl, -⟩ := List.cons.inj hts
  exact hopening o ho ht

end CaptionAnimation.Expression
