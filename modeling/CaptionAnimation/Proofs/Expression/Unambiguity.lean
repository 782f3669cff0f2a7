import CaptionAnimation.Proofs.Expression.Seams
import Mathlib.Logic.Relation

/-! # The grammar is unambiguous

Two phrases of a stratum that begin the same tokens, each before tokens that do not go on with it, are the same phrase.
A left-recursive phrase grows from its innermost left part by one access or operator at a time; each growth is
determined by the tokens, so two phrases that cannot grow further are the ends of one run. -/
namespace CaptionAnimation.Expression

open Relation (ReflTransGen)

variable {S : Stratum} {l : Level} {n : Nat} {p q : Phrase} {r r' : List Token}

/-- A phrase of the stratum that opens fewer than `n` levels and ends before `rest`. -/
structure Ends (S : Stratum) (n : Nat) (p : Phrase) (rest : List Token) : Prop where
  derives : Derives S p
  nesting : p.nesting < n
  quiet : Quiet S.bound rest

def Unique (S : Stratum) (n : Nat) : Prop :=
  ∀ ⦃p q r r'⦄, Ends S n p r → Ends S n q r' → p.tokens ++ r = q.tokens ++ r' → p = q ∧ r = r'

/-- A closing token ends every expression. -/
theorem Ends.before_op {o : Operator} {c : Token} (hp : Derives .whole p) (hpn : p.nesting < n)
    (hc : c.lexeme = .op o) (ho : Stratum.whole.bound ≤ Token.reach ⟨.op o, 0⟩) : Ends .whole n p (c :: r) :=
  ⟨hp, hpn, quiet_of_op hc ho⟩

/-! ## Lists of items -/

theorem tail_unique (hwhole : Unique .whole n) : Unique .tail (n + 1) := by
  intro p q r r' hp hq h
  induction p generalizing q with
  | empty =>
    cases hq.derives with
    | noFurther => exact ⟨rfl, h⟩
    | further hcomma =>
      obtain rfl : r = _ := h
      exact absurd hcomma (hp.quiet.lexeme_ne (by decide))
  | further comma next others _ ih =>
    obtain ⟨hp, hpn, hpr⟩ := hp
    obtain ⟨hq, hqn, hqr⟩ := hq
    cases hp with
    | further hcomma hnext hothers =>
      cases hq with
      | noFurther =>
        obtain rfl : _ = r' := h
        exact absurd hcomma (hqr.lexeme_ne (by decide))
      | @further comma' next' others' hcomma' hnext' hothers' =>
        simp only [Phrase.nesting] at hpn hqn
        simp only [Phrase.tokens, List.cons_append, List.append_assoc, List.cons.injEq] at h
        obtain ⟨rfl, h⟩ := h
        have hnextEnds : Ends .whole n next (others.tokens ++ r) := ⟨hnext, by omega, hothers.quiet_tail hpr⟩
        have hnextEnds' : Ends .whole n next' (others'.tokens ++ r') := ⟨hnext', by omega, hothers'.quiet_tail hqr⟩
        obtain ⟨rfl, hrest⟩ := hwhole hnextEnds hnextEnds' h
        obtain ⟨rfl, rfl⟩ := ih ⟨hothers, by omega, hpr⟩ ⟨hothers', by omega, hqr⟩ hrest
        exact ⟨rfl, rfl⟩
  | _ => cases hp.derives

/-- Items before closing brackets. -/
theorem list_unique (hwhole : Unique .whole n) (hp : Derives .list p) (hpn : p.nesting < n + 1) (hq : Derives .list q)
    (hqn : q.nesting < n + 1) {close : Operator} (hclose : close.Closes) {c c' : Token}
    (hc : c.lexeme = .op close) (hc' : c'.lexeme = .op close) (h : p.tokens ++ c :: r = q.tokens ++ c' :: r') :
    p = q ∧ c = c' ∧ r = r' := by
  cases hp with
  | noItems =>
    cases hq with
    | noItems => exact ⟨rfl, by simpa [Phrase.tokens] using h⟩
    | items hfirst' => exact absurd (by simpa [Phrase.tokens] using h) (hfirst'.ne_closing hclose hc _)
  | @items first others hfirstp hothers =>
    cases hq with
    | noItems => exact absurd (by simpa [Phrase.tokens] using h.symm) (hfirstp.ne_closing hclose hc' _)
    | @items first' others' hfirstq hothers' =>
      simp only [Phrase.nesting] at hpn hqn
      simp only [Phrase.tokens, List.append_assoc] at h
      have hends : Ends .whole n first (others.tokens ++ c :: r) :=
        ⟨hfirstp, by omega, hothers.quiet_tail (hclose.quiet hc)⟩
      have hends' : Ends .whole n first' (others'.tokens ++ c' :: r') :=
        ⟨hfirstq, by omega, hothers'.quiet_tail (hclose.quiet hc')⟩
      obtain ⟨rfl, hrest⟩ := hwhole hends hends' h
      obtain ⟨rfl, hclosed⟩ :=
        tail_unique hwhole ⟨hothers, by omega, hclose.quiet hc⟩ ⟨hothers', by omega, hclose.quiet hc'⟩ hrest
      exact ⟨rfl, List.cons.inj hclosed⟩

/-! ## Primaries -/

theorem primary_unique (hwhole : Unique .whole n) : Unique .primary (n + 1) := by
  rintro p q r r' ⟨hp, hpn, -⟩ ⟨hq, hqn, -⟩ h
  -- the first token tells a value, a group and a list apart
  cases hp with
  | value hv =>
    cases hq with
    | value => simpa [Phrase.tokens] using h
    | group ho | array ho =>
      obtain ⟨rfl, -⟩ := List.cons.inj h
      simp [Token.value?, ho] at hv
  | @group o c body ho hbody hc =>
    cases hq with
    | value hv =>
      obtain ⟨rfl, -⟩ := List.cons.inj h
      simp [Token.value?, ho] at hv
    | array ho' =>
      obtain ⟨rfl, -⟩ := List.cons.inj h
      simp [ho] at ho'
    | @group o' c' body' ho' hbody' hc' =>
      simp only [Phrase.tokens, List.cons_append, List.append_assoc, List.cons.injEq, List.nil_append] at h
      obtain ⟨rfl, h⟩ := h
      have hends : Ends .whole n body (c :: r) := .before_op hbody (Nat.lt_of_succ_lt_succ hpn) hc (by decide)
      have hends' : Ends .whole n body' (c' :: r') := .before_op hbody' (Nat.lt_of_succ_lt_succ hqn) hc' (by decide)
      obtain ⟨rfl, hclosed⟩ := hwhole hends hends' h
      obtain ⟨rfl, rfl⟩ := List.cons.inj hclosed
      exact ⟨rfl, rfl⟩
  | @array o c content ho hcontent hc =>
    cases hq with
    | value hv =>
      obtain ⟨rfl, -⟩ := List.cons.inj h
      simp [Token.value?, ho] at hv
    | group ho' =>
      obtain ⟨rfl, -⟩ := List.cons.inj h
      simp [ho] at ho'
    | @array o' c' content' ho' hcontent' hc' =>
      simp only [Phrase.tokens, List.cons_append, List.append_assoc, List.cons.injEq, List.nil_append] at h
      obtain ⟨rfl, h⟩ := h
      obtain ⟨rfl, rfl, rfl⟩ := list_unique hwhole hcontent hpn hcontent' hqn (.inr rfl) hc hc' h
      exact ⟨rfl, rfl⟩

/-! ## Left-recursive phrases -/

/-- How a phrase takes in what follows it: one access, or an operator of the level and its right side. -/
inductive Grows (n : Nat) : Stratum → Phrase × List Token → Phrase × List Token → Prop
  | member {p : Phrase} {dot : Token} {name : String} {pos : Nat} {r : List Token} :
      dot.lexeme = .op .dot ∨ dot.lexeme = .op .guardedDot →
      Grows n .access (p, dot :: ⟨.name name, pos⟩ :: r) (.member p dot name pos, r)
  | index {p key : Phrase} {o c : Token} {r : List Token} : o.lexeme = .op .openBracket → Derives .whole key →
      key.nesting < n → c.lexeme = .op .closeBracket →
      Grows n .access (p, o :: (key.tokens ++ c :: r)) (.index p o key c, r)
  | call {p args : Phrase} {o c : Token} {r : List Token} : o.lexeme = .op .openParen → Derives .list args →
      args.nesting < n + 1 → c.lexeme = .op .closeParen →
      Grows n .access (p, o :: (args.tokens ++ c :: r)) (.call p o args c, r)
  | infixed {l : Level} {p right : Phrase} {op : Token} {r : List Token} : op.level? = some l →
      Ends l.tighter n right r → Grows n (.level l) (p, op :: (right.tokens ++ r)) (.infixed p op right, r)

theorem grows_access_unique (hwhole : Unique .whole n) : Relator.RightUnique (Grows n .access) := by
  rintro ⟨p, ts⟩ y z hy hz
  -- the first token tells the accesses apart, and what stands in brackets is unique
  cases hy with
  | @member _ dot name pos r hdot =>
    generalize hts : dot :: ⟨.name name, pos⟩ :: r = ts at hz
    cases hz with
    | member =>
      obtain ⟨rfl, hrest⟩ := List.cons.inj hts
      simpa using hrest
    | index ho | call ho =>
      obtain ⟨rfl, -⟩ := List.cons.inj hts
      simp [ho] at hdot
  | @index _ key o c r ho hkey hkeyn hc =>
    generalize hts : o :: (key.tokens ++ c :: r) = ts at hz
    cases hz with
    | member hdot =>
      obtain ⟨rfl, -⟩ := List.cons.inj hts
      simp [ho] at hdot
    | call ho' =>
      obtain ⟨rfl, -⟩ := List.cons.inj hts
      simp [ho] at ho'
    | index ho' hkey' hkeyn' hc' =>
      obtain ⟨rfl, hrest⟩ := List.cons.inj hts
      have hends : Ends .whole n key (c :: r) := .before_op hkey hkeyn hc (by decide)
      obtain ⟨rfl, hclosed⟩ := hwhole hends (.before_op hkey' hkeyn' hc' (by decide)) hrest
      obtain ⟨rfl, rfl⟩ := List.cons.inj hclosed
      rfl
  | @call _ args o c r ho hargs hargsn hc =>
    generalize hts : o :: (args.tokens ++ c :: r) = ts at hz
    cases hz with
    | member hdot =>
      obtain ⟨rfl, -⟩ := List.cons.inj hts
      simp [ho] at hdot
    | index ho' =>
      obtain ⟨rfl, -⟩ := List.cons.inj hts
      simp [ho] at ho'
    | call ho' hargs' hargsn' hc' =>
      obtain ⟨rfl, hrest⟩ := List.cons.inj hts
      obtain ⟨rfl, rfl, rfl⟩ := list_unique hwhole hargs hargsn hargs' hargsn' (.inl rfl) hc hc' hrest
      rfl

theorem grows_level_unique (htighter : Unique l.tighter n) : Relator.RightUnique (Grows n (.level l)) := by
  rintro ⟨p, ts⟩ y z hy hz
  cases hy with
  | @infixed _ _ right op r hop hright =>
    generalize hts : op :: (right.tokens ++ r) = ts at hz
    cases hz with
    | infixed hop' hright' =>
      obtain ⟨rfl, hrest⟩ := List.cons.inj hts
      obtain ⟨rfl, rfl⟩ := htighter hright hright' hrest
      rfl

/-- Before tokens that end its stratum a phrase does not grow. -/
theorem not_grows (hquiet : Quiet S.bound r) (y : Phrase × List Token) : ¬ Grows n S (p, r) y := by
  intro hy
  cases hy with
  | member hdot => rcases hdot with hdot | hdot <;> exact hquiet.lexeme_ne (by decide) hdot
  | index ho => exact hquiet.lexeme_ne (by decide) ho
  | call ho => exact hquiet.lexeme_ne (by decide) ho
  | infixed hop => exact hquiet.level?_ne hop

theorem eq_of_runs {x : Phrase × List Token} (hunique : Relator.RightUnique (Grows n S))
    (hp : ReflTransGen (Grows n S) x (p, r)) (hq : ReflTransGen (Grows n S) x (q, r')) (hr : Quiet S.bound r)
    (hr' : Quiet S.bound r') : p = q ∧ r = r' := by
  have hstuck : ∀ {p r y}, Quiet S.bound r → ReflTransGen (Grows n S) (p, r) y → y = (p, r) := by
    intro p r y hquiet hrun
    rcases hrun.cases_head with h | ⟨z, hz, -⟩
    · exact h.symm
    · exact absurd hz (not_grows hquiet z)
  -- one of the two runs goes on from where the other stopped, so it goes nowhere
  rcases ReflTransGen.total_of_right_unique hunique hp hq with h | h
  · simpa using (hstuck hr h).symm
  · simpa using hstuck hr' h

theorem access_runs : ∀ {p : Phrase}, Derives .access p → p.nesting < n + 1 → ∀ r : List Token,
    ∃ b r₀, Ends .primary (n + 1) b r₀ ∧ b.tokens ++ r₀ = p.tokens ++ r ∧
      ReflTransGen (Grows n .access) (b, r₀) (p, r)
  | p, .primary hp, hpn, r => ⟨p, r, ⟨hp, hpn, by simp [Quiet, Stratum.bound]⟩, rfl, .refl⟩
  | .member obj dot name pos, .member hobj hdot, hpn, r => by
    obtain ⟨b, r₀, hb, htokens, hrun⟩ := access_runs hobj hpn (dot :: ⟨.name name, pos⟩ :: r)
    exact ⟨b, r₀, hb, by simp [htokens, Phrase.tokens], hrun.tail (.member hdot)⟩
  | .index obj o key c, .index hobj ho hkey hc, hpn, r => by
    simp only [Phrase.nesting] at hpn
    obtain ⟨b, r₀, hb, htokens, hrun⟩ := access_runs hobj (by omega) (o :: (key.tokens ++ c :: r))
    exact ⟨b, r₀, hb, by simp [htokens, Phrase.tokens], hrun.tail (.index ho hkey (by omega) hc)⟩
  | .call callee o args c, .call hcallee _ ho hargs hc, hpn, r => by
    simp only [Phrase.nesting] at hpn
    obtain ⟨b, r₀, hb, htokens, hrun⟩ := access_runs hcallee (by omega) (o :: (args.tokens ++ c :: r))
    exact ⟨b, r₀, hb, by simp [htokens, Phrase.tokens], hrun.tail (.call ho hargs (by omega) hc)⟩

theorem level_runs : ∀ {p : Phrase}, Derives (.level l) p → p.nesting < n → ∀ {r : List Token},
    Quiet l.tighter.bound r → ∃ b r₀, Ends l.tighter n b r₀ ∧ b.tokens ++ r₀ = p.tokens ++ r ∧
      ReflTransGen (Grows n (.level l)) (b, r₀) (p, r)
  | p, .tighter hp, hpn, r, hr => ⟨p, r, ⟨hp, hpn, hr⟩, rfl, .refl⟩
  | .infixed left op right, .infixed hleft hop hright, hpn, r, hr => by
    simp only [Phrase.nesting] at hpn
    have hseam : Quiet l.tighter.bound (op :: (right.tokens ++ r)) := quiet_cons.mpr (bound_le_level hop)
    obtain ⟨b, r₀, hb, htokens, hrun⟩ := level_runs hleft (by omega) hseam
    exact ⟨b, r₀, hb, by simp [htokens, Phrase.tokens], hrun.tail (.infixed hop ⟨hright, by omega, hr⟩)⟩

theorem access_unique (hwhole : Unique .whole n) : Unique .access (n + 1) := by
  intro p q r r' hp hq h
  obtain ⟨b, r₀, hb, hbp, hrun⟩ := access_runs hp.derives hp.nesting r
  obtain ⟨b', r₀', hb', hbq, hrun'⟩ := access_runs hq.derives hq.nesting r'
  obtain ⟨rfl, rfl⟩ := primary_unique hwhole hb hb' (by rw [hbp, hbq, h])
  exact eq_of_runs (grows_access_unique hwhole) hrun hrun' hp.quiet hq.quiet

theorem level_unique (htighter : Unique l.tighter n) : Unique (.level l) n := by
  intro p q r r' hp hq h
  have hbound : l.tighter.bound ≤ (Stratum.level l).bound := by
    rw [l.tighter_bound]
    exact Nat.le_succ _
  obtain ⟨b, r₀, hb, hbp, hrun⟩ := level_runs hp.derives hp.nesting (hp.quiet.mono hbound)
  obtain ⟨b', r₀', hb', hbq, hrun'⟩ := level_runs hq.derives hq.nesting (hq.quiet.mono hbound)
  obtain ⟨rfl, rfl⟩ := htighter hb hb' (by rw [hbp, hbq, h])
  exact eq_of_runs (grows_level_unique htighter) hrun hrun' hp.quiet hq.quiet

/-! ## Expressions -/

theorem operand_unique (hdeeper : Unique .operand n) (hwhole : Unique .whole n) : Unique .operand (n + 1) := by
  intro p q r r' hp hq h
  obtain ⟨hp, hpn, hr⟩ := hp
  obtain ⟨hq, hqn, hr'⟩ := hq
  cases hp with
  | access hp =>
    cases hq with
    | access hq => exact access_unique hwhole ⟨hp, hpn, hr⟩ ⟨hq, hqn, hr'⟩ h
    | prefixed hop => exact absurd h.symm (hp.ne_prefixed hop _)
  | @prefixed op operand hop hoperand =>
    cases hq with
    | access hq => exact absurd h (hq.ne_prefixed hop _)
    | @prefixed op' operand' hop' hoperand' =>
      obtain ⟨rfl, hrest⟩ := List.cons.inj h
      obtain ⟨rfl, rfl⟩ := hdeeper ⟨hoperand, Nat.lt_of_succ_lt_succ hpn, hr⟩
        ⟨hoperand', Nat.lt_of_succ_lt_succ hqn, hr'⟩ hrest
      exact ⟨rfl, rfl⟩

theorem coalescence_unique (hoperand : Unique .operand n) : Unique (.level .coalescence) n := by
  have hproduct : Unique (.level .product) n := level_unique hoperand
  have hequality := level_unique (l := .equality) (level_unique (l := .comparison) (level_unique (l := .sum) hproduct))
  exact level_unique (l := .coalescence) (level_unique (l := .disjunction) (level_unique (l := .conjunction) hequality))

/-- Before `?`, the test of a conditional ends. -/
theorem Ends.test {q : Token} (hp : Derives (.level .coalescence) p) (hpn : p.nesting < n)
    (hq : q.lexeme = .op .question) : Ends (.level .coalescence) n p (q :: r) :=
  ⟨hp, hpn, quiet_of_op hq (by decide)⟩

theorem whole_unique (hbranch : Unique .whole n) (hoperand : Unique .operand (n + 1)) : Unique .whole (n + 1) := by
  have hbinary := coalescence_unique hoperand
  rintro p q r r' ⟨hp, hpn, hr⟩ ⟨hq, hqn, hr'⟩ h
  cases hp with
  | binary hp =>
    have hends : Ends (.level .coalescence) (n + 1) p r := ⟨hp, hpn, hr.mono (by decide)⟩
    cases hq with
    | binary hq => exact hbinary hends ⟨hq, hqn, hr'.mono (by decide)⟩ h
    | @conditional test yes no q colon htest hquestion hyes hcolon hno =>
      simp only [Phrase.nesting] at hqn
      simp only [Phrase.tokens, List.append_assoc, List.cons_append] at h
      obtain ⟨rfl, rfl⟩ := hbinary hends (.test htest (by omega) hquestion) h
      exact absurd hquestion (hr.lexeme_ne (by decide))
  | @conditional test yes no q colon htest hquestion hyes hcolon hno =>
    simp only [Phrase.nesting] at hpn
    simp only [Phrase.tokens, List.append_assoc, List.cons_append] at h
    have hends : Ends (.level .coalescence) (n + 1) test (q :: (yes.tokens ++ colon :: (no.tokens ++ r))) :=
      .test htest (by omega) hquestion
    cases hq with
    | binary hq =>
      obtain ⟨rfl, rfl⟩ := hbinary hends ⟨hq, hqn, hr'.mono (by decide)⟩ h
      exact absurd hquestion (hr'.lexeme_ne (by decide))
    | @conditional test' yes' no' q' colon' htest' hquestion' hyes' hcolon' hno' =>
      simp only [Phrase.nesting] at hqn
      simp only [Phrase.tokens, List.append_assoc, List.cons_append] at h
      obtain ⟨rfl, hafter⟩ := hbinary hends (.test htest' (by omega) hquestion') h
      obtain ⟨rfl, hbranches⟩ := List.cons.inj hafter
      obtain ⟨rfl, hrest⟩ := hbranch (.before_op hyes (by omega) hcolon (by decide))
        (.before_op hyes' (by omega) hcolon' (by decide)) hbranches
      obtain ⟨rfl, hlast⟩ := List.cons.inj hrest
      obtain ⟨rfl, rfl⟩ := hbranch ⟨hno, by omega, hr⟩ ⟨hno', by omega, hr'⟩ hlast
      exact ⟨rfl, rfl⟩

theorem unique (n : Nat) : Unique .whole n ∧ Unique .operand (n + 1) := by
  have hnone : ∀ S, Unique S 0 := fun _ _ _ _ _ hp => absurd hp.nesting (Nat.not_lt_zero _)
  induction n with
  | zero => exact ⟨hnone .whole, operand_unique (hnone .operand) (hnone .whole)⟩
  | succ n ih =>
    have hwhole := whole_unique ih.1 ih.2
    exact ⟨hwhole, operand_unique ih.2 hwhole⟩

/-- At most one phrase derives from the tokens. -/
theorem Derives.unique (hp : Derives .whole p) (hq : Derives .whole q) (h : p.tokens = q.tokens) : p = q := by
  have hpn : p.nesting < max p.nesting q.nesting + 1 := by omega
  have hqn : q.nesting < max p.nesting q.nesting + 1 := by omega
  exact ((Expression.unique _).1 ⟨hp, hpn, quiet_nil _⟩ ⟨hq, hqn, quiet_nil _⟩ (by rw [h])).1

end CaptionAnimation.Expression
