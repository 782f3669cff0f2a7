import CaptionAnimation.Proofs.Expression.Seams
import CaptionAnimation.Proofs.Expression.Tables

/-! # What derives from the grammar is read

Before tokens that do not go on with it, a phrase that opens few enough levels is read as its tree, and the reader
stops at its end. A left-recursive phrase is read by a loop: its left part brings the loop to where the last operator
stands. -/
namespace CaptionAnimation.Expression

variable {l : Level} {n : Nat} {nested item branch operand : Reader Expr} {p : Phrase} {rest : List Token}

def Complete (S : Stratum) (n : Nat) (reader : Reader Expr) : Prop :=
  ∀ ⦃p rest⦄, Derives S p → p.nesting < n → Quiet S.bound rest → reader (p.tokens ++ rest) = .ok (p.tree, rest)

/-- A loop that has a round for each token has one for the next token. -/
theorem exists_round {t : Token} {ts rounds : List Token} (h : (t :: ts).length ≤ rounds.length) :
    ∃ round others, rounds = round :: others ∧ ts.length ≤ others.length := by
  cases rounds with
  | nil => simp at h
  | cons round others => exact ⟨round, others, rfl, Nat.le_of_succ_le_succ h⟩

/-! ## Lists of items -/

theorem moreItems_complete (hitem : Complete .whole n item) (hp : Derives .tail p) (hpn : p.nesting < n + 1)
    (hquiet : Quiet Stratum.tail.bound rest) {rounds : List Token}
    (hrounds : (p.tokens ++ rest).length ≤ rounds.length) :
    moreItems item rounds (p.tokens ++ rest) = .ok (p.trees, rest) := by
  induction p generalizing rounds with
  | empty =>
    cases rounds with
    | nil =>
      obtain rfl : rest = [] := by simpa [Phrase.tokens] using hrounds
      rfl
    | cons round rounds =>
      cases rest with
      | nil => rfl
      | cons t ts =>
        have hcomma : t.lexeme ≠ .op .comma := hquiet.lexeme_ne (by decide)
        simp [moreItems, Phrase.tokens, Phrase.trees, hcomma]
  | further comma next others _ ih =>
    cases hp with
    | further hcomma hnext hothers =>
      simp only [Phrase.nesting] at hpn
      simp only [Phrase.tokens, List.cons_append, List.append_assoc] at hrounds ⊢
      obtain ⟨round, rounds, rfl, hlength⟩ := exists_round hrounds
      have hread := hitem hnext (by omega) (hothers.quiet_tail hquiet)
      have hrest : (others.tokens ++ rest).length ≤ rounds.length := by
        rw [List.length_append] at hlength
        omega
      have hmore := ih hothers (by omega) hrest
      simp [moreItems, hcomma, hread, hmore, bind, Except.bind, pure, Except.pure, Phrase.trees]
  | _ => cases hp

/-- Items before the bracket that closes them. -/
theorem itemsUntil_complete (hitem : Complete .whole n item) (hp : Derives .list p) (hpn : p.nesting < n + 1)
    {close : Operator} (hclose : close.Closes) {c : Token} (hc : c.lexeme = .op close) :
    itemsUntil close item (p.tokens ++ c :: rest) = .ok (p.trees, rest) := by
  have hquiet : Quiet Stratum.tail.bound (c :: rest) := hclose.quiet hc
  have hitems : itemsBefore close item (p.tokens ++ c :: rest) = .ok (p.trees, c :: rest) := by
    cases hp with
    | noItems => simp [itemsBefore, Phrase.tokens, Phrase.trees, hc]
    | @items first others hfirst hothers =>
      obtain ⟨t, ts, hts, hopening⟩ := hfirst.first_whole
      have ht : t.lexeme ≠ .op close := hopening close hclose
      simp only [Phrase.nesting] at hpn
      have hread := hitem hfirst (by omega) (hothers.quiet_tail hquiet)
      have hmore := moreItems_complete hitem hothers (by omega) hquiet (Nat.le_refl _)
      have hhead : (first.tokens ++ (others.tokens ++ c :: rest)).head? = some t := by simp [hts]
      simp only [Phrase.tokens, List.append_assoc, itemsBefore, hhead]
      simp [ht, hread, hmore, bind, Except.bind, pure, Except.pure, Phrase.trees]
  simp [itemsUntil, hitems, expectOp_cons hc, bind, Except.bind, pure, Except.pure]

/-! ## Primaries, accesses and operands -/

theorem primary_complete (hnested : Complete .whole n nested) : Complete .primary (n + 1) (primary nested) := by
  intro p rest hp hpn _
  cases hp with
  | @value t hv =>
    obtain ⟨v, hv⟩ := Option.isSome_iff_exists.mp hv
    simp [Phrase.tokens, primary_eq, hv, Phrase.tree]
  | @group o c body ho hbody hc =>
    have hquiet : Quiet Stratum.whole.bound (c :: rest) := quiet_of_op hc (by decide)
    have hread := hnested hbody (Nat.lt_of_succ_lt_succ hpn) hquiet
    have hvalue : o.value? = none := by simp [Token.value?, ho]
    simp [Phrase.tokens, primary_eq, hvalue, ho, hread, expectOp_cons hc, bind, Except.bind, pure, Except.pure,
      Phrase.tree]
  | @array o c content ho hcontent hc =>
    have hread : itemsUntil .closeBracket nested (content.tokens ++ c :: rest) = .ok (content.trees, rest) :=
      itemsUntil_complete hnested hcontent hpn (.inr rfl) hc
    have hvalue : o.value? = none := by simp [Token.value?, ho]
    simp [Phrase.tokens, primary_eq, hvalue, ho, hread, bind, Except.bind, pure, Except.pure, Phrase.tree]

-- The derivation is taken apart from the right: its left part brings the loop to the last access, and one more round
-- reads that. The rounds left over are enough for the tokens left over.

/-- Reading an access phrase brings the loop to its end. -/
theorem postfixExpr_resumes (hnested : Complete .whole n nested) :
    ∀ {p : Phrase}, Derives .access p → p.nesting < n + 1 → ∀ rest : List Token, ∃ rounds : List Token,
      rest.length ≤ rounds.length ∧ postfixExpr nested (p.tokens ++ rest) = postfixRest nested rounds p.tree rest
  | p, .primary hp, hpn, rest => by
    have hquiet : Quiet Stratum.primary.bound rest := by simp [Quiet, Stratum.bound]
    have hread := primary_complete hnested hp hpn hquiet
    exact ⟨rest, Nat.le_refl _, by simp [postfixExpr, hread, bind, Except.bind]⟩
  | .member obj dot name pos, .member hobj hdot, hpn, rest => by
    obtain ⟨rounds, hrounds, hread⟩ := postfixExpr_resumes hnested hobj hpn (dot :: ⟨.name name, pos⟩ :: rest)
    obtain ⟨round, rounds, rfl, hlength⟩ := exists_round hrounds
    refine ⟨rounds, by simp only [List.length_cons] at hlength; omega, ?_⟩
    simp only [Phrase.tokens, List.append_assoc, List.cons_append, List.nil_append, hread]
    rcases hdot with hdot | hdot <;> simp [postfixRest, hdot, Phrase.tree]
  | .index obj o key c, .index hobj ho hkey hc, hpn, rest => by
    simp only [Phrase.nesting] at hpn
    obtain ⟨rounds, hrounds, hread⟩ := postfixExpr_resumes hnested hobj (by omega) (o :: (key.tokens ++ c :: rest))
    obtain ⟨round, rounds, rfl, hlength⟩ := exists_round hrounds
    refine ⟨rounds, by simp only [List.length_append, List.length_cons] at hlength; omega, ?_⟩
    have hquiet : Quiet Stratum.whole.bound (c :: rest) := quiet_of_op hc (by decide)
    have hinner := hnested hkey (by omega) hquiet
    simp only [Phrase.tokens, List.append_assoc, List.cons_append, List.nil_append, hread]
    simp [postfixRest, ho, hinner, expectOp_cons hc, bind, Except.bind, Phrase.tree]
  | .call callee o args c, .call hcallee hname ho hargs hc, hpn, rest => by
    simp only [Phrase.nesting] at hpn
    obtain ⟨rounds, hrounds, hread⟩ :=
      postfixExpr_resumes hnested hcallee (by omega) (o :: (args.tokens ++ c :: rest))
    obtain ⟨round, rounds, rfl, hlength⟩ := exists_round hrounds
    refine ⟨rounds, by simp only [List.length_append, List.length_cons] at hlength; omega, ?_⟩
    obtain ⟨name, hname⟩ := Option.isSome_iff_exists.mp hname
    have hinner : itemsUntil .closeParen nested (args.tokens ++ c :: rest) = .ok (args.trees, rest) :=
      itemsUntil_complete hnested hargs (by omega) (.inl rfl) hc
    simp only [Phrase.tokens, List.append_assoc, List.cons_append, List.nil_append, hread]
    simp [postfixRest, ho, hname, hinner, bind, Except.bind, Phrase.tree]

theorem postfixRest_quiet {e : Expr} (rounds : List Token) (hquiet : Quiet Stratum.access.bound rest) :
    postfixRest nested rounds e rest = .ok (e, rest) := by
  cases rounds with
  | nil => rfl
  | cons round rounds =>
    cases rest with
    | nil => rfl
    | cons t ts =>
      have hne : ∀ o, Token.reach ⟨.op o, 0⟩ < Stratum.access.bound → t.lexeme ≠ .op o := fun o => hquiet.lexeme_ne
      have hdot := hne .dot (by decide)
      have hguarded := hne .guardedDot (by decide)
      have hbracket := hne .openBracket (by decide)
      have hparen := hne .openParen (by decide)
      unfold postfixRest
      split <;> first | contradiction | rfl

theorem postfixExpr_complete (hnested : Complete .whole n nested) : Complete .access (n + 1) (postfixExpr nested) := by
  intro p rest hp hpn hquiet
  obtain ⟨rounds, -, hread⟩ := postfixExpr_resumes hnested hp hpn rest
  rw [hread, postfixRest_quiet rounds hquiet]

theorem prefixExpr_complete {deeper : Option (Reader Expr)} (hdeeper : ∀ r ∈ deeper, Complete .operand n r)
    (hsome : deeper.isSome ∨ n = 0) (hnested : Complete .whole n nested) :
    Complete .operand (n + 1) (prefixExpr deeper nested) := by
  intro p rest hp hpn hquiet
  cases hp with
  | access hp =>
    obtain ⟨t, ts, hts, hop⟩ := hp.first_access
    have hread := postfixExpr_complete hnested hp hpn hquiet
    simpa only [hts, List.cons_append, prefixExpr, hop] using hread
  | @prefixed op operand hop hoperand =>
    obtain ⟨o, hop⟩ := Option.isSome_iff_exists.mp hop
    simp only [Phrase.nesting] at hpn
    cases deeper with
    | none => simp at hsome; omega
    | some r =>
      have hread := hdeeper r rfl hoperand (by omega) hquiet
      simp [Phrase.tokens, prefixExpr, hop, hread, bind, Except.bind, pure, Except.pure, Phrase.tree]

/-! ## Infix levels and conditionals -/

/-- Reading a phrase of the level brings the loop to its end. -/
theorem chain_resumes (hoperand : Complete l.tighter n operand) :
    ∀ {p : Phrase}, Derives (.level l) p → p.nesting < n → ∀ {rest : List Token}, Quiet l.tighter.bound rest →
      ∃ rounds : List Token, rest.length ≤ rounds.length ∧
        chain operand l.joint? (p.tokens ++ rest) = chainRest l.joint? operand rounds p.tree rest
  | p, .tighter hp, hpn, rest, hquiet => by
    have hread := hoperand hp hpn hquiet
    exact ⟨rest, Nat.le_refl _, by simp [chain, hread, bind, Except.bind]⟩
  | .infixed left op right, .infixed hleft hop hright, hpn, rest, hquiet => by
    simp only [Phrase.nesting] at hpn
    have hseam : Quiet l.tighter.bound (op :: (right.tokens ++ rest)) := quiet_cons.mpr (bound_le_level hop)
    obtain ⟨rounds, hrounds, hread⟩ := chain_resumes hoperand hleft (by omega) hseam
    obtain ⟨round, rounds, rfl, hlength⟩ := exists_round hrounds
    refine ⟨rounds, by simp only [List.length_append] at hlength; omega, ?_⟩
    have hinner := hoperand hright (by omega) hquiet
    simp only [Phrase.tokens, List.append_assoc, List.cons_append, hread]
    simp [chainRest, Level.joint?, hop, hinner, bind, Except.bind, Phrase.tree]

theorem chainRest_quiet {e : Expr} (rounds : List Token) (hquiet : Quiet (Stratum.level l).bound rest) :
    chainRest l.joint? operand rounds e rest = .ok (e, rest) := by
  cases rounds with
  | nil => rfl
  | cons round rounds =>
    cases rest with
    | nil => rfl
    | cons t ts => simp [chainRest, Level.joint?, hquiet.level?_ne]

theorem chain_complete (hoperand : Complete l.tighter n operand) :
    Complete (.level l) n (chain operand l.joint?) := by
  intro p rest hp hpn hquiet
  have hseam : Quiet l.tighter.bound rest := hquiet.mono (by rw [l.tighter_bound]; exact Nat.le_succ _)
  obtain ⟨rounds, -, hread⟩ := chain_resumes hoperand hp hpn hseam
  rw [hread, chainRest_quiet rounds hquiet]

theorem binaryExpr_complete (hoperand : Complete .operand n operand) :
    Complete (.level .coalescence) n (binaryExpr operand) :=
  binaryExpr_climbs (P := (Complete · n ·)) hoperand fun _ _ => chain_complete

theorem conditionalExpr_complete (hbranch : Complete .whole n branch) (hoperand : Complete .operand (n + 1) operand) :
    Complete .whole (n + 1) (conditionalExpr branch operand) := by
  intro p rest hp hpn hquiet
  cases hp with
  | binary hp =>
    have hread := binaryExpr_complete hoperand hp hpn (hquiet.mono (by decide))
    cases rest with
    | nil =>
      rw [List.append_nil] at hread ⊢
      simp [conditionalExpr, hread, bind, Except.bind, pure, Except.pure]
    | cons t ts =>
      have hquestion : t.lexeme ≠ .op .question := hquiet.lexeme_ne (by decide)
      simp [conditionalExpr, hread, hquestion, bind, Except.bind, pure, Except.pure]
  | @conditional test yes no q colon htest hq hyes hcolon hno =>
    simp only [Phrase.nesting] at hpn
    have hseam : Quiet (Stratum.level .coalescence).bound (q :: (yes.tokens ++ colon :: (no.tokens ++ rest))) :=
      quiet_of_op hq (by decide)
    have hseam' : Quiet Stratum.whole.bound (colon :: (no.tokens ++ rest)) := quiet_of_op hcolon (by decide)
    have hread := binaryExpr_complete hoperand htest (by omega) hseam
    have hreadYes := hbranch hyes (by omega) hseam'
    have hreadNo := hbranch hno (by omega) hquiet
    simp [Phrase.tokens, conditionalExpr, hread, hq, hreadYes, expectOp_cons hcolon, hreadNo, bind, Except.bind, pure,
      Except.pure, Phrase.tree]

/-- With `n` levels left, every whole expression that opens fewer than `n` more is read, and every operand that opens
at most `n`. -/
theorem readers_complete (n : Nat) : Complete .whole n (readers n).1 ∧ Complete .operand (n + 1) (readers n).2 := by
  refine readers_deepen ?_ ?_ ?_ n
  · intro p rest hp hpn
    exact absurd hpn (Nat.not_lt_zero _)
  · intro n branch operand hbranch hoperand
    exact conditionalExpr_complete hbranch hoperand
  · intro n deeper whole hdeeper hsome hwhole
    exact prefixExpr_complete hdeeper hsome hwhole

end CaptionAnimation.Expression
