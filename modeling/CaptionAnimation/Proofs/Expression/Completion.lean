import CaptionAnimation.Proofs.Expression.RoundTrip
import CaptionAnimation.Proofs.Expression.Soundness

/-! # What could still have been written

Where a reader stops, other than for the depth, the tokens before that place begin a phrase of its stratum. A name, the
colon of a conditional and closing brackets are all that it takes to complete them, whatever is pending. -/
namespace CaptionAnimation.Expression

variable {α : Type} {S S' : Stratum} {l : Level} {n n' : Nat} {nested item branch operand : Reader Expr} {p : Phrase}
  {t : Token} {ts rest : List Token} {stop : Stop}

/-- What completes the beginning of an expression. -/
def completers : List Lexeme := [.name "x", .op .colon, .op .closeParen, .op .closeBracket]

/-- Some completers, as tokens at any offsets, go on with the tokens to a phrase of the stratum that opens fewer than
`n` levels. -/
def Completes (S : Stratum) (n : Nat) (before : List Token) : Prop :=
  ∃ ls : List Lexeme, ls ⊆ completers ∧ ∀ more : List Token, more.map Token.lexeme = ls →
    ∃ p, Derives S p ∧ p.nesting < n ∧ p.tokens = before ++ more

/-- Unless it is for the depth, the stop comes after tokens that can be completed. -/
def Halts (S : Stratum) (n : Nat) (ts : List Token) (stop : Stop) : Prop :=
  stop.want ≠ .shallower → ∃ before, ts = before ++ stop.rest ∧ Completes S n before

/-- Whenever the reader stops, it halts. -/
def Viable (S : Stratum) (n : Nat) (reader : Reader Expr) : Prop :=
  ∀ ⦃ts stop⦄, reader ts = .error stop → Halts S n ts stop

theorem expectOp_eq_error {o : Operator} (h : expectOp o ts = .error stop) : stop = ⟨.operator o, ts⟩ := by
  cases ts with
  | nil => exact (Except.error.inj h).symm
  | cons t ts =>
    by_cases ht : t.isOp o = true
    · rw [expectOp, if_pos ht] at h
      cases h
    · rw [expectOp, if_neg ht] at h
      exact (Except.error.inj h).symm

/-! ## Phrases that can be completed -/

theorem Completes.of_derives (hp : Derives S p) (hn : p.nesting < n) : Completes S n p.tokens :=
  ⟨[], List.nil_subset _, fun more hmore => ⟨p, hp, hn, by simp [List.map_eq_nil_iff.mp hmore]⟩⟩

/-- A stop behind a phrase of the stratum. -/
theorem halts_behind (hp : Derives S p) (hn : p.nesting < n) (want : Want) (rest : List Token) :
    Halts S n (p.tokens ++ rest) ⟨want, rest⟩ :=
  fun _ => ⟨p.tokens, rfl, .of_derives hp hn⟩

/-- A stop within a part is a stop within the whole, where the whole can be put together around the part. -/
theorem Halts.within (h : Halts S n ts stop) (front : List Token) {back : List Lexeme} (hback : back ⊆ completers)
    (hbuild : ∀ p (more : List Token), Derives S p → p.nesting < n → more.map Token.lexeme = back →
      ∃ q, Derives S' q ∧ q.nesting < n' ∧ q.tokens = front ++ (p.tokens ++ more)) :
    Halts S' n' (front ++ ts) stop := by
  intro hwant
  obtain ⟨before, rfl, ls, hls, hcompletes⟩ := h hwant
  refine ⟨front ++ before, (List.append_assoc ..).symm, ls ++ back, List.append_subset.mpr ⟨hls, hback⟩, ?_⟩
  intro more hmore
  obtain ⟨inner, outer, rfl, hinner, houter⟩ := List.map_eq_append_iff.mp hmore
  obtain ⟨p, hp, hpn, htokens⟩ := hcompletes inner hinner
  obtain ⟨q, hq, hqn, hqtokens⟩ := hbuild p outer hp hpn houter
  exact ⟨q, hq, hqn, by rw [hqtokens, htokens]; simp only [List.append_assoc]⟩

/-- A stop in a part that ends the whole. -/
theorem Halts.last (h : Halts S n ts stop) (front : List Token)
    (hbuild : ∀ p, Derives S p → p.nesting < n →
      ∃ q, Derives S' q ∧ q.nesting < n' ∧ q.tokens = front ++ p.tokens) : Halts S' n' (front ++ ts) stop :=
  h.within front (List.nil_subset _) fun p more hp hpn hmore => by
    obtain rfl := List.map_eq_nil_iff.mp hmore
    rw [List.append_nil]
    exact hbuild p hp hpn

/-- A stop in a part that one more token closes, or behind the part. -/
theorem Halts.closed (h : Halts S n ts stop) (front : List Token) {l : Lexeme} (hl : l ∈ completers)
    (hbuild : ∀ p (c : Token), Derives S p → p.nesting < n → c.lexeme = l →
      ∃ q, Derives S' q ∧ q.nesting < n' ∧ q.tokens = front ++ (p.tokens ++ [c])) : Halts S' n' (front ++ ts) stop :=
  h.within front (List.cons_subset.mpr ⟨hl, List.nil_subset _⟩) fun p more hp hpn hmore => by
    obtain ⟨c, rfl, hc⟩ := List.map_eq_singleton_iff.mp hmore
    exact hbuild p c hp hpn hc

/-- A phrase of the one stratum is a phrase of the other. -/
theorem Halts.lift (h : Halts S n ts stop) (hlift : ∀ p, Derives S p → Derives S' p) : Halts S' n ts stop :=
  h.last [] fun p hp hpn => ⟨p, hlift p hp, hpn, rfl⟩

theorem derives_name (h : t.lexeme = .name "x") : Derives .primary (.value t) :=
  .value (by simp [Token.value?, h, operatorNames])

theorem whole_name (h : t.lexeme = .name "x") : Derives .whole (.value t) :=
  (Derives.access (.primary (derives_name h))).whole_of_operand

/-- A stop where a primary may begin. -/
theorem halts_before (hn : 0 < n) (want : Want) (ts : List Token) : Halts .primary n ts ⟨want, ts⟩ := by
  refine fun _ => ⟨[], rfl, [.name "x"], by simp [completers], fun more hmore => ?_⟩
  obtain ⟨t, rfl, ht⟩ := List.map_eq_singleton_iff.mp hmore
  exact ⟨.value t, derives_name ht, hn, rfl⟩

/-! ## Lists of items -/

theorem moreItems_viable (hsound : Sound .whole n item) (hitem : Viable .whole n item) (rounds : List Token)
    (h : moreItems item rounds ts = .error stop) : Halts .tail (n + 1) ts stop := by
  induction rounds generalizing ts with
  | nil => cases h
  | cons round rounds ih =>
    cases ts with
    | nil => cases h
    | cons t ts =>
      by_cases hcomma : t.isOp .comma = true
      · rw [moreItems, if_pos hcomma] at h
        have hderives : t.lexeme = .op .comma := Token.isOp_iff.mp hcomma
        rcases bind_eq_error_iff.mp h with hfirst | ⟨⟨e, after⟩, hfirst, h⟩
        · refine (hitem hfirst).last [t] fun p hp hpn => ?_
          refine ⟨.further t p .empty, .further hderives hp .noFurther, ?_, by simp [Phrase.tokens]⟩
          simp only [Phrase.nesting]
          omega
        · rcases bind_eq_error_iff.mp h with hmore | ⟨_, -, h⟩
          · obtain ⟨p, hp, hpn, rfl, -⟩ := hsound hfirst
            refine (ih hmore).last (t :: p.tokens) fun q hq hqn => ?_
            refine ⟨.further t p q, .further hderives hp hq, ?_, rfl⟩
            simp only [Phrase.nesting]
            omega
          · cases h
      · rw [moreItems, if_neg hcomma] at h
        cases h

theorem itemsBefore_viable (hsound : Sound .whole n item) (hitem : Viable .whole n item) {close : Operator}
    (h : itemsBefore close item ts = .error stop) : Halts .list (n + 1) ts stop := by
  unfold itemsBefore at h
  split at h
  · cases h
  · rcases bind_eq_error_iff.mp h with hfirst | ⟨⟨e, after⟩, hfirst, h⟩
    · refine (hitem hfirst).last [] fun p hp hpn => ?_
      refine ⟨.items p .empty, .items hp .noFurther, ?_, by simp [Phrase.tokens]⟩
      simp only [Phrase.nesting]
      omega
    · rcases bind_eq_error_iff.mp h with hmore | ⟨_, -, h⟩
      · obtain ⟨p, hp, hpn, rfl, -⟩ := hsound hfirst
        refine (moreItems_viable hsound hitem after hmore).last p.tokens fun q hq hqn => ?_
        refine ⟨.items p q, .items hp hq, ?_, rfl⟩
        simp only [Phrase.nesting]
        omega
      · cases h

theorem itemsUntil_viable (hsound : Sound .whole n item) (hitem : Viable .whole n item) {close : Operator}
    (h : itemsUntil close item ts = .error stop) : Halts .list (n + 1) ts stop := by
  rcases bind_eq_error_iff.mp h with hitems | ⟨⟨es, before⟩, hitems, h⟩
  · exact itemsBefore_viable hsound hitem hitems
  · rcases bind_eq_error_iff.mp h with hclose | ⟨_, -, h⟩
    · obtain ⟨p, hp, hpn, rfl, -⟩ := itemsBefore_sound hsound hitems
      rw [expectOp_eq_error hclose]
      exact halts_behind hp hpn _ _
    · cases h

/-! ## Primaries, accesses and operands -/

/-- An expression, the token that closes it, and what comes then. -/
theorem closed_viable (hsound : Sound .whole n nested) (hnested : Viable .whole n nested) {o : Operator}
    (f : Expr → List Token → Except Stop (α × List Token))
    (h : (nested ts >>= fun r => expectOp o r.2 >>= fun c => f r.1 c.2) = .error stop) :
    Halts .whole n ts stop ∨
      ∃ (p : Phrase) (c : Token) (rest : List Token), Derives .whole p ∧ p.nesting < n ∧ c.lexeme = .op o ∧
        ts = p.tokens ++ c :: rest ∧ f p.tree rest = .error stop := by
  rcases bind_eq_error_iff.mp h with hbody | ⟨⟨e, before⟩, hbody, h⟩
  · exact .inl (hnested hbody)
  · obtain ⟨p, hp, hpn, rfl, rfl⟩ := hsound hbody
    rcases bind_eq_error_iff.mp h with hclose | ⟨⟨⟨⟩, after⟩, hclose, h⟩
    · rw [expectOp_eq_error hclose]
      exact .inl (halts_behind hp hpn _ _)
    · obtain ⟨c, hc, rfl⟩ := expectOp_eq_ok.mp hclose
      exact .inr ⟨p, c, after, hp, hpn, hc, rfl, h⟩

theorem primary_viable (hsound : Sound .whole n nested) (hnested : Viable .whole n nested) :
    Viable .primary (n + 1) (primary nested) := by
  intro ts stop h
  cases ts with
  | nil =>
    obtain rfl := Except.error.inj h
    exact halts_before (Nat.succ_pos n) _ _
  | cons t ts =>
    rw [primary_eq] at h
    split at h
    · cases h
    · split at h
      · next hopen =>
        rcases closed_viable hsound hnested (fun e rest => pure (e, rest)) h with hhalts | ⟨p, c, rest, -, -, -, -, h⟩
        · refine hhalts.closed [t] (l := .op .closeParen) (by simp [completers]) fun p c hp hpn hc => ?_
          exact ⟨.group t p c, .group hopen hp hc, Nat.succ_lt_succ hpn, rfl⟩
        · cases h
      · next hopen =>
        rcases bind_eq_error_iff.mp h with hitems | ⟨_, -, h⟩
        · have hhalts := itemsUntil_viable hsound hnested hitems
          refine hhalts.closed [t] (l := .op .closeBracket) (by simp [completers]) fun p c hp hpn hc => ?_
          exact ⟨.array t p c, .array hopen hp hc, hpn, rfl⟩
        · cases h
      · obtain rfl := Except.error.inj h
        exact halts_before (Nat.succ_pos n) _ _
      · obtain rfl := Except.error.inj h
        exact halts_before (Nat.succ_pos n) _ _

/-- The loop stops after an access phrase and something that can be completed. -/
theorem postfixRest_viable (hsound : Sound .whole n nested) (hnested : Viable .whole n nested) (rounds : List Token)
    (hp : Derives .access p) (hpn : p.nesting < n + 1) (h : postfixRest nested rounds p.tree ts = .error stop) :
    Halts .access (n + 1) (p.tokens ++ ts) stop := by
  induction rounds generalizing p ts with
  | nil => cases h
  | cons round rounds ih =>
    cases ts with
    | nil => cases h
    | cons t ts =>
      unfold postfixRest at h
      split at h
      case h_1 hdot | h_2 hdot =>
        split at h
        · next name pos after =>
          have hmember : Derives .access (.member p t name pos) := .member hp (by simp [hdot])
          simpa [Phrase.tokens] using ih hmember hpn h
        -- a point can be completed by any name
        · obtain rfl := Except.error.inj h
          refine fun _ => ⟨p.tokens ++ [t], by simp, [.name "x"], by simp [completers], fun more hmore => ?_⟩
          obtain ⟨⟨_, pos⟩, rfl, rfl⟩ := List.map_eq_singleton_iff.mp hmore
          exact ⟨.member p t "x" pos, .member hp (by simp [hdot]), hpn, by simp [Phrase.tokens]⟩
      case h_3 hopen =>
        rcases closed_viable hsound hnested (fun key => postfixRest nested rounds (.index t.pos p.tree key false)) h with
          hhalts | ⟨q, c, rest, hq, hqn, hc, rfl, hgo⟩
        · rw [List.append_cons]
          refine hhalts.closed (p.tokens ++ [t]) (l := .op .closeBracket) (by simp [completers]) fun q c hq hqn hc => ?_
          refine ⟨.index p t q c, .index hp hopen hq hc, ?_, by simp [Phrase.tokens]⟩
          simp only [Phrase.nesting]
          omega
        · have hgrown := ih (.index hp hopen hq hc) (by simp only [Phrase.nesting]; omega) hgo
          simpa [Phrase.tokens] using hgrown
      case h_4 hopen =>
        split at h
        · obtain rfl := Except.error.inj h
          exact halts_behind hp hpn _ _
        · next name hname =>
          have hcallee : (calleeName? p.tree).isSome := by rw [hname]; rfl
          rcases bind_eq_error_iff.mp h with hargs | ⟨⟨args, after⟩, hargs, h⟩
          · have hhalts := itemsUntil_viable hsound hnested hargs
            rw [List.append_cons]
            refine hhalts.closed (p.tokens ++ [t]) (l := .op .closeParen) (by simp [completers]) fun q c hq hqn hc => ?_
            refine ⟨.call p t q c, .call hp hcallee hopen hq hc, ?_, by simp [Phrase.tokens]⟩
            simp only [Phrase.nesting]
            omega
          · obtain ⟨c, hc, q, hq, hqn, rfl, rfl⟩ := itemsUntil_sound hsound hargs
            have hcall : Derives .access (.call p t q c) := .call hp hcallee hopen hq hc
            have hgrown := ih hcall (by simp only [Phrase.nesting]; omega) (by simpa [Phrase.tree, hname] using h)
            simpa [Phrase.tokens] using hgrown
      case h_5 => cases h

theorem postfixExpr_viable (hsound : Sound .whole n nested) (hnested : Viable .whole n nested) :
    Viable .access (n + 1) (postfixExpr nested) := by
  intro ts stop h
  rcases bind_eq_error_iff.mp h with hbase | ⟨⟨base, after⟩, hbase, h⟩
  · exact (primary_viable hsound hnested hbase).lift fun _ => .primary
  · obtain ⟨p, hp, hpn, rfl, rfl⟩ := primary_sound hsound hbase
    exact postfixRest_viable hsound hnested after (.primary hp) hpn h

theorem prefixExpr_viable {deeper : Option (Reader Expr)} (hdeeper : ∀ r ∈ deeper, Viable .operand n r)
    (hsound : Sound .whole n nested) (hnested : Viable .whole n nested) :
    Viable .operand (n + 1) (prefixExpr deeper nested) := by
  have haccess : ∀ {ts stop}, postfixExpr nested ts = .error stop → Halts .operand (n + 1) ts stop :=
    fun h => (postfixExpr_viable hsound hnested h).lift fun _ => .access
  intro ts stop h
  cases ts with
  | nil => exact haccess h
  | cons t ts =>
    cases hop : prefixOp? t with
    | none => exact haccess (by simpa only [prefixExpr, hop] using h)
    | some op =>
      cases deeper with
      | none =>
        simp only [prefixExpr, hop] at h
        obtain rfl := Except.error.inj h
        exact fun hwant => absurd rfl hwant
      | some r =>
        simp only [prefixExpr, hop] at h
        rcases bind_eq_error_iff.mp h with hoperand | ⟨_, -, h⟩
        · refine (hdeeper r rfl hoperand).last [t] fun p hp hpn => ?_
          exact ⟨.prefixed t p, .prefixed (by simp [hop]) hp, Nat.succ_lt_succ hpn, rfl⟩
        · cases h

/-! ## Infix levels and conditionals -/

/-- The loop stops after a phrase of the level, an operator, and something that can be completed. -/
theorem chainRest_viable (hsound : Sound l.tighter n operand) (hoperand : Viable l.tighter n operand)
    (rounds : List Token) (hp : Derives (.level l) p) (hpn : p.nesting < n)
    (h : chainRest l.joint? operand rounds p.tree ts = .error stop) : Halts (.level l) n (p.tokens ++ ts) stop := by
  induction rounds generalizing p ts with
  | nil => cases h
  | cons round rounds ih =>
    cases ts with
    | nil => cases h
    | cons t ts =>
      unfold chainRest at h
      split at h
      · cases h
      · next joint hjoint =>
        obtain ⟨hl, rfl⟩ := Level.joint?_eq_some hjoint
        rcases bind_eq_error_iff.mp h with hright | ⟨⟨right, after⟩, hright, h⟩
        · rw [List.append_cons]
          refine (hoperand hright).last (p.tokens ++ [t]) fun q hq hqn => ?_
          exact ⟨.infixed p t q, .infixed hp hl hq, max_lt hpn hqn, by simp [Phrase.tokens]⟩
        · obtain ⟨q, hq, hqn, rfl, rfl⟩ := hsound hright
          simpa [Phrase.tokens] using ih (.infixed hp hl hq) (max_lt hpn hqn) h

theorem chain_viable (hsound : Sound l.tighter n operand) (hoperand : Viable l.tighter n operand) :
    Viable (.level l) n (chain operand l.joint?) := by
  intro ts stop h
  rcases bind_eq_error_iff.mp h with hleft | ⟨⟨left, after⟩, hleft, h⟩
  · exact (hoperand hleft).lift fun _ => .tighter
  · obtain ⟨p, hp, hpn, rfl, rfl⟩ := hsound hleft
    exact chainRest_viable hsound hoperand after (.tighter hp) hpn h

theorem binaryExpr_viable (hsound : Sound .operand n operand) (hoperand : Viable .operand n operand) :
    Viable (.level .coalescence) n (binaryExpr operand) :=
  (binaryExpr_climbs (P := fun S reader => Sound S n reader ∧ Viable S n reader) ⟨hsound, hoperand⟩
    fun _ _ h => ⟨chain_sound h.1, chain_viable h.1 h.2⟩).2

theorem conditionalExpr_viable (hsound : Sound .whole n branch) (hbranch : Viable .whole n branch)
    (hoperandSound : Sound .operand (n + 1) operand) (hoperand : Viable .operand (n + 1) operand) :
    Viable .whole (n + 1) (conditionalExpr branch operand) := by
  intro ts stop h
  rcases bind_eq_error_iff.mp h with htest | ⟨⟨test, after⟩, htest, h⟩
  · exact (binaryExpr_viable hoperandSound hoperand htest).lift fun _ => .binary
  · obtain ⟨p, hp, hpn, rfl, rfl⟩ := binaryExpr_sound hoperandSound htest
    cases after with
    | nil => cases h
    | cons t more =>
      dsimp only at h
      split at h
      · next hquestion =>
        have hmark : t.lexeme = .op .question := Token.isOp_iff.mp hquestion
        rcases closed_viable hsound hbranch (fun yes rest => branch rest >>= fun no =>
          pure (Expr.conditional t.pos p.tree yes no.1, no.2)) h with hhalts | ⟨q, c, rest, hq, hqn, hc, rfl, hgo⟩
        · rw [List.append_cons]
          -- behind the first branch a colon and the other branch are still missing
          have hback : [.op .colon, .name "x"] ⊆ completers := by simp [completers]
          refine hhalts.within (p.tokens ++ [t]) hback ?_
          intro q more hq hqn hmore
          obtain ⟨c, tail, rfl, hc, htail⟩ := List.map_eq_cons_iff.mp hmore
          obtain ⟨x, rfl, hx⟩ := List.map_eq_singleton_iff.mp htail
          refine ⟨.conditional p t q c (.value x), .conditional hp hmark hq hc (whole_name hx), ?_, by simp [Phrase.tokens]⟩
          simp only [Phrase.nesting]
          omega
        · rcases bind_eq_error_iff.mp hgo with hno | ⟨_, -, hgo⟩
          · have hfront : p.tokens ++ t :: (q.tokens ++ c :: rest) = (p.tokens ++ t :: (q.tokens ++ [c])) ++ rest := by
              simp
            rw [hfront]
            refine (hbranch hno).last _ fun r hr hrn => ?_
            refine ⟨.conditional p t q c r, .conditional hp hmark hq hc hr, ?_, by simp [Phrase.tokens]⟩
            simp only [Phrase.nesting]
            omega
          · cases hgo
      · cases h

/-- With `n` levels left, whole expressions and operands stop where they could still be completed. -/
theorem readers_viable (n : Nat) : Viable .whole n (readers n).1 ∧ Viable .operand (n + 1) (readers n).2 := by
  -- what a reader has read before it stops is a phrase, so soundness goes along
  have hboth := readers_deepen (P := fun S n r => Sound S n r ∧ Viable S n r) ?_ ?_ ?_ n
  · exact ⟨hboth.1.2, hboth.2.2⟩
  · refine ⟨(readers_sound 0).1, fun ts stop h => ?_⟩
    obtain rfl := Except.error.inj h
    exact fun hwant => absurd rfl hwant
  · rintro n branch operand ⟨hsound, hbranch⟩ ⟨hoperandSound, hoperand⟩
    exact ⟨conditionalExpr_sound hsound hoperandSound, conditionalExpr_viable hsound hbranch hoperandSound hoperand⟩
  · rintro n deeper whole hdeeper _ ⟨hsound, hwhole⟩
    exact ⟨prefixExpr_sound (fun r hr => (hdeeper r hr).1) hsound,
      prefixExpr_viable (fun r hr => (hdeeper r hr).2) hsound hwhole⟩

/-- Where the reading of all tokens stops, they begin a whole expression. -/
theorem readTokens_viable (h : readTokens ts = .error stop) : Halts .whole maxNesting ts stop := by
  rcases bind_eq_error_iff.mp h with hread | ⟨⟨e, rest⟩, hread, hend⟩
  · exact (readers_viable maxNesting).1 hread
  · obtain ⟨p, hp, hpn, rfl, -⟩ := (readers_sound maxNesting).1 hread
    dsimp only at hend
    split at hend
    · cases hend
    · obtain rfl := Except.error.inj hend
      exact halts_behind hp hpn _ _

end CaptionAnimation.Expression
