import CaptionAnimation.Proofs.Expression.Completeness
import CaptionAnimation.Proofs.Expression.RoundTrip

/-! # One token ahead

A reader settles its outcome on the lexemes of the tokens that it takes and on the one behind them. Neither the offsets
of the tokens nor anything further on plays a part, whether the reader returns a tree or stops. -/
namespace CaptionAnimation.Expression

variable {α β : Type} {R : α → α → Prop} {Q : β → β → Prop} {l : Level} {e e' : Expr} {t t' : Token}
  {ts ts' rest : List Token} {item nested operand branch : Reader Expr}

def SameLexemes (ts ts' : List Token) : Prop := ts.map Token.lexeme = ts'.map Token.lexeme

/-- The same lexeme comes first, or nothing comes at all. -/
def SameNext (ts ts' : List Token) : Prop := ts.head?.map Token.lexeme = ts'.head?.map Token.lexeme

/-- The tokens that a reader leaves. -/
def unread : Except Stop (α × List Token) → List Token
  | .ok (_, rest) => rest
  | .error stop => stop.rest

/-- The same outcome up to a relation of the results, with other tokens left. -/
inductive SameOutcome (R : α → α → Prop) (rest' : List Token) :
    Except Stop (α × List Token) → Except Stop (α × List Token) → Prop
  | returns {a a' : α} {rest : List Token} : R a a' → SameOutcome R rest' (.ok (a, rest)) (.ok (a', rest'))
  | stops {want : Want} {rest : List Token} : SameOutcome R rest' (.error ⟨want, rest⟩) (.error ⟨want, rest'⟩)

/-- On other tokens with the lexemes of those taken, the reader has the same outcome if the same lexeme comes next. -/
def Settles (R : α → α → Prop) (ts : List Token) (outcome : Except Stop (α × List Token)) (reader : Reader α) : Prop :=
  ∃ taken, ts = taken ++ unread outcome ∧ ∀ taken' rest', SameLexemes taken taken' → SameNext (unread outcome) rest' →
    SameOutcome R rest' outcome (reader (taken' ++ rest'))

/-- The reader looks no further than one token ahead. -/
def LooksAhead (R : α → α → Prop) (reader : Reader α) : Prop := ∀ ts, Settles R ts (reader ts) reader

/-- What the reader leaves is no longer than what it was given. -/
def Shrinks (reader : Reader α) : Prop := ∀ ⦃ts a rest⦄, reader ts = .ok (a, rest) → rest.length ≤ ts.length

/-! ## Outcomes -/

theorem sameLexemes_cons : SameLexemes (t :: ts) ts' ↔
    ∃ t' more, ts' = t' :: more ∧ t.lexeme = t'.lexeme ∧ SameLexemes ts more := by
  unfold SameLexemes
  rw [List.map_cons, eq_comm, List.map_eq_cons_iff]
  simp only [eq_comm]

theorem SameLexemes.of_append {front back : List Token} (h : SameLexemes (front ++ back) ts') :
    ∃ front' back', ts' = front' ++ back' ∧ SameLexemes front front' ∧ SameLexemes back back' := by
  obtain ⟨front', back', rfl, hfront, hback⟩ := List.map_eq_append_iff.mp (h.symm.trans List.map_append)
  exact ⟨front', back', rfl, hfront.symm, hback.symm⟩

theorem sameNext_nil : SameNext [] ts' ↔ ts' = [] := by
  unfold SameNext
  cases ts' <;> simp

theorem sameNext_cons : SameNext (t :: ts) ts' ↔ ∃ t' more, ts' = t' :: more ∧ t.lexeme = t'.lexeme := by
  unfold SameNext
  cases ts' <;> simp

theorem SameLexemes.append_next (h : SameLexemes ts ts') {rest rest' : List Token} (hrest : SameNext rest rest') :
    SameNext (ts ++ rest) (ts' ++ rest') := by
  cases ts with
  | nil =>
    obtain rfl := List.map_eq_nil_iff.mp h.symm
    exact hrest
  | cons t ts =>
    obtain ⟨t', more, rfl, ht, -⟩ := sameLexemes_cons.mp h
    exact sameNext_cons.mpr ⟨t', more ++ rest', rfl, ht⟩

/-- What a reader makes of its tokens without taking one. -/
theorem Settles.at_once {outcome : Except Stop (α × List Token)} {reader : Reader α} (hunread : unread outcome = ts)
    (h : ∀ ts', SameNext ts ts' → SameOutcome R ts' outcome (reader ts')) : Settles R ts outcome reader := by
  refine ⟨[], hunread.symm, fun taken' rest' htaken hrest => ?_⟩
  obtain rfl := List.map_eq_nil_iff.mp htaken.symm
  exact h rest' (hunread ▸ hrest)

/-- The next token is taken, and the rest is as settled. -/
theorem Settles.token {outcome : Except Stop (α × List Token)} {reader : Reader α}
    (h : ∀ t', t.lexeme = t'.lexeme → Settles R ts outcome fun ts' => reader (t' :: ts')) :
    Settles R (t :: ts) outcome reader := by
  obtain ⟨taken, hts, -⟩ := h t rfl
  refine ⟨t :: taken, by rw [List.cons_append, ← hts], fun taken' rest' htaken hrest => ?_⟩
  obtain ⟨t', more, rfl, ht, hmore⟩ := sameLexemes_cons.mp htaken
  obtain ⟨taken₂, hts₂, hsettled⟩ := h t' ht
  obtain rfl : taken = taken₂ := List.append_cancel_right (hts.symm.trans hts₂)
  exact hsettled more rest' hmore hrest

/-- One step and then the next. -/
theorem Settles.bind {outcome : Except Stop (α × List Token)} {reader : Reader α}
    {f f' : α × List Token → Except Stop (β × List Token)} (h : Settles R ts outcome reader)
    (hf : ∀ a a' rest, outcome = .ok (a, rest) → R a a' → Settles Q rest (f (a, rest)) fun ts' => f' (a', ts')) :
    Settles Q ts (outcome >>= f) fun ts' => reader ts' >>= f' := by
  obtain ⟨taken, hts, hsettled⟩ := h
  cases outcome with
  | error stop =>
    refine ⟨taken, hts, fun taken' rest' htaken hrest => ?_⟩
    have hsame := hsettled taken' rest' htaken hrest
    dsimp only
    generalize reader (taken' ++ rest') = outcome' at hsame ⊢
    cases hsame
    exact .stops
  | ok result =>
    obtain ⟨a, middle⟩ := result
    -- run on the list itself, the first step returns, and what follows it settles
    have hnext : ∃ taken₂, middle = taken₂ ++ unread (f (a, middle)) := by
      have hsame := hsettled taken middle rfl rfl
      generalize reader (taken ++ middle) = outcome' at hsame
      cases hsame with
      | returns ha =>
        obtain ⟨taken₂, hmiddle, -⟩ := hf a _ middle rfl ha
        exact ⟨taken₂, hmiddle⟩
    obtain ⟨taken₂, hmiddle⟩ := hnext
    refine ⟨taken ++ taken₂, ?_, fun taken' rest' htaken hrest => ?_⟩
    · rw [List.append_assoc]
      exact hts.trans (congrArg (taken ++ ·) hmiddle)
    -- the first step sees at most the next token, which the second took or left as it is
    · obtain ⟨front, back, rfl, hfront, hback⟩ := htaken.of_append
      have hbefore : SameNext middle (back ++ rest') := hmiddle ▸ hback.append_next hrest
      have hsame := hsettled front (back ++ rest') hfront hbefore
      dsimp only
      rw [List.append_assoc]
      generalize reader (front ++ (back ++ rest')) = outcome' at hsame ⊢
      cases hsame with
      | returns ha =>
        obtain ⟨taken₃, hmiddle', hmore⟩ := hf a _ middle rfl ha
        obtain rfl : taken₂ = taken₃ := List.append_cancel_right (hmiddle.symm.trans hmiddle')
        exact hmore back rest' hback hrest

/-- What is returned at the end does not depend on the tokens. -/
theorem Settles.pure {a a' : α} (h : R a a') : Settles R ts (.ok (a, ts)) fun ts' => .ok (a', ts') :=
  .at_once rfl fun _ _ => .returns h

/-- What the next lexeme decides may be decided first. -/
theorem Settles.of_next {outcome : Except Stop (α × List Token)} {reader reader' : Reader α}
    (h : Settles R ts outcome reader) (heq : ∀ ts', SameNext ts ts' → reader' ts' = reader ts') :
    Settles R ts outcome reader' := by
  obtain ⟨taken, hts, hsettled⟩ := h
  refine ⟨taken, hts, fun taken' rest' htaken hrest => ?_⟩
  rw [heq _ (by rw [hts]; exact htaken.append_next hrest)]
  exact hsettled taken' rest' htaken hrest

theorem LooksAhead.shrinks {reader : Reader α} (h : LooksAhead R reader) : Shrinks reader := by
  intro ts a rest hread
  obtain ⟨taken, hts, -⟩ := h ts
  rw [hread] at hts
  rw [hts, List.length_append]
  exact Nat.le_add_left _ _

/-! ## Trees and tokens -/

/-- Two trees that differ in the offsets of their nodes only. -/
def Alike (e e' : Expr) : Prop := e.unplaced = e'.unplaced

def AllAlike (es es' : List Expr) : Prop := Expr.unplacedAll es = Expr.unplacedAll es'

theorem Alike.cons {es es' : List Expr} (he : Alike e e') (hes : AllAlike es es') : AllAlike (e :: es) (e' :: es') :=
  congrArg₂ List.cons he hes

theorem AllAlike.array {es es' : List Expr} {pos pos' : Nat} (hes : AllAlike es es') :
    Alike (.array pos es) (.array pos' es') := congrArg (Expr.array 0) hes

theorem AllAlike.call {es es' : List Expr} {pos pos' : Nat} (name : String) (hes : AllAlike es es') :
    Alike (.call pos name es) (.call pos' name es') := congrArg (Expr.call 0 name) hes

theorem Alike.member {pos pos' : Nat} (s : String) (guarded : Bool) (he : Alike e e') :
    Alike (.member pos e s guarded) (.member pos' e' s guarded) := congrArg (Expr.member 0 · s guarded) he

theorem Alike.index {key key' : Expr} {pos pos' : Nat} (he : Alike e e') (hkey : Alike key key') :
    Alike (.index pos e key false) (.index pos' e' key' false) := congrArg₂ (Expr.index 0 · · false) he hkey

theorem Alike.prefixed {pos pos' : Nat} (op : PrefixOp) (he : Alike e e') :
    Alike (.prefixed pos op e) (.prefixed pos' op e') := congrArg (Expr.prefixed 0 op) he

theorem Alike.conditional {yes yes' no no' : Expr} {pos pos' : Nat} (he : Alike e e') (hyes : Alike yes yes')
    (hno : Alike no no') : Alike (.conditional pos e yes no) (.conditional pos' e' yes' no') := by
  simp only [Alike, Expr.unplaced] at he hyes hno ⊢
  rw [he, hyes, hno]

theorem calleeName?_unplaced (e : Expr) : calleeName? e.unplaced = calleeName? e := by
  cases e with
  | member pos obj s guarded =>
    cases obj with
    | name _ root => by_cases hroot : root = "helpers" <;> simp [Expr.unplaced, calleeName?, hroot]
    | _ => rfl
  | _ => rfl

theorem Alike.calleeName?_eq (h : Alike e e') : calleeName? e = calleeName? e' := by
  rw [← calleeName?_unplaced e, ← calleeName?_unplaced e', h]

theorem isOp_congr (h : t.lexeme = t'.lexeme) (o : Operator) : t.isOp o = t'.isOp o := by
  unfold Token.isOp
  rw [h]

theorem prefixOp?_congr (h : t.lexeme = t'.lexeme) : prefixOp? t = prefixOp? t' := by
  unfold prefixOp?
  rw [h]

theorem level?_congr (h : t.lexeme.connective? = t'.lexeme.connective?) : t.level? = t'.level? := by
  unfold Token.level?
  rw [h]

theorem alike_join (h : t.lexeme.connective? = t'.lexeme.connective?) {x x' y y' : Expr} (hx : Alike x x') (hy : Alike y y') :
    Alike (t.join x y) (t'.join x' y') := by
  unfold Alike at hx hy ⊢
  unfold Token.join
  rw [h]
  cases t'.lexeme.connective? with
  | none => rfl
  | some connective =>
    obtain ⟨-, c⟩ := connective
    cases c <;> simp [Connective.join, Expr.unplaced, hx, hy]

theorem value?_congr (h : t.lexeme = t'.lexeme) : t.value?.map Expr.unplaced = t'.value?.map Expr.unplaced := by
  unfold Token.value?
  rw [h]
  split <;> try rfl
  split <;> rfl

theorem SameNext.any_isOp (h : SameNext ts ts') (o : Operator) :
    ts.head?.any (·.isOp o) = ts'.head?.any (·.isOp o) := by
  cases ts with
  | nil =>
    obtain rfl := sameNext_nil.mp h
    rfl
  | cons t ts =>
    obtain ⟨t', more, rfl, ht⟩ := sameNext_cons.mp h
    simpa using isOp_congr ht o

/-! ## Rounds -/

theorem bind_congr_ok {ε : Type} {x : Except ε α} {f g : α → Except ε β} (h : ∀ a, x = .ok a → f a = g a) :
    (x >>= f) = (x >>= g) := by
  cases x with
  | error e => rfl
  | ok a => exact h a rfl

/-- A loop that has a round for each token has enough. -/
theorem chainRest_rounds {joint? : Token → Option Joint} (hoperand : Shrinks operand) {rounds rounds' : List Token}
    (h : ts.length ≤ rounds.length) (h' : ts.length ≤ rounds'.length) :
    chainRest joint? operand rounds e ts = chainRest joint? operand rounds' e ts := by
  induction rounds generalizing rounds' ts e with
  | nil =>
    obtain rfl : ts = [] := List.eq_nil_of_length_eq_zero (Nat.le_zero.mp h)
    cases rounds' <;> rfl
  | cons round rounds ih =>
    cases ts with
    | nil => cases rounds' <;> rfl
    | cons t ts =>
      obtain ⟨round', rounds', rfl, hrounds'⟩ := exists_round h'
      unfold chainRest
      split
      · rfl
      · refine bind_congr_ok fun result hresult => ?_
        have hle := hoperand hresult
        exact ih (by simp only [List.length_cons] at h; omega) (by omega)

theorem moreItems_rounds (hitem : Shrinks item) {rounds rounds' : List Token} (h : ts.length ≤ rounds.length)
    (h' : ts.length ≤ rounds'.length) : moreItems item rounds ts = moreItems item rounds' ts := by
  induction rounds generalizing rounds' ts with
  | nil =>
    obtain rfl : ts = [] := List.eq_nil_of_length_eq_zero (Nat.le_zero.mp h)
    cases rounds' <;> rfl
  | cons round rounds ih =>
    cases ts with
    | nil => cases rounds' <;> rfl
    | cons t ts =>
      obtain ⟨round', rounds', rfl, hrounds'⟩ := exists_round h'
      unfold moreItems
      split
      · refine bind_congr_ok ?_
        rintro ⟨e, rest⟩ hresult
        have hle := hitem hresult
        simp only [List.length_cons] at h
        have hmore : moreItems item rounds rest = moreItems item rounds' rest := ih (by omega) (by omega)
        simp only [hmore]
      · rfl

theorem postfixRest_rounds (hnested : Shrinks nested) (hitems : Shrinks (itemsUntil .closeParen nested))
    {rounds rounds' : List Token} (h : ts.length ≤ rounds.length) (h' : ts.length ≤ rounds'.length) :
    postfixRest nested rounds e ts = postfixRest nested rounds' e ts := by
  induction rounds generalizing rounds' ts e with
  | nil =>
    obtain rfl : ts = [] := List.eq_nil_of_length_eq_zero (Nat.le_zero.mp h)
    cases rounds' <;> rfl
  | cons round rounds ih =>
    cases ts with
    | nil => cases rounds' <;> rfl
    | cons t ts =>
      obtain ⟨round', rounds', rfl, hrounds'⟩ := exists_round h'
      simp only [List.length_cons] at h
      -- every round that goes on has read a token, so that both have rounds enough for the rest
      unfold postfixRest
      split
      case h_1 | h_2 =>
        split
        · exact ih (by simp only [List.length_cons] at h; omega) (by simp only [List.length_cons] at hrounds'; omega)
        · rfl
      case h_3 =>
        refine bind_congr_ok fun result hresult => bind_congr_ok fun closed hclosed => ?_
        have hle := hnested hresult
        obtain ⟨c, -, hc⟩ := expectOp_eq_ok.mp hclosed
        rw [hc, List.length_cons] at hle
        exact ih (by omega) (by omega)
      case h_4 =>
        split
        · rfl
        · refine bind_congr_ok fun result hresult => ?_
          have hle := hitems hresult
          exact ih (by omega) (by omega)
      case h_5 => rfl

/-! ## Lists of items -/

theorem expectOp_looks (o : Operator) : LooksAhead (fun _ _ => True) (expectOp o) := by
  intro ts
  cases ts with
  | nil =>
    refine .at_once rfl fun ts' hts' => ?_
    obtain rfl := sameNext_nil.mp hts'
    exact .stops
  | cons t ts =>
    by_cases ht : t.lexeme = .op o
    · rw [expectOp_cons ht]
      refine .token fun t' ht' => ?_
      simp only [expectOp_cons (ht'.symm.trans ht)]
      exact .pure trivial
    · have hstops : ∀ {t ts}, t.lexeme ≠ .op o → expectOp o (t :: ts) = .error ⟨.operator o, t :: ts⟩ := by
        intro t ts ht
        simp [expectOp, ht]
      rw [hstops ht]
      refine .at_once rfl fun ts' hts' => ?_
      obtain ⟨t', more, rfl, ht'⟩ := sameNext_cons.mp hts'
      rw [hstops (ht' ▸ ht)]
      exact .stops

/-- After a comma comes one more item, and then the further ones. -/
theorem moreItems_comma (hitem : Shrinks item) (ht : t.lexeme = .op .comma) :
    moreItems item (t :: ts) (t :: ts) =
      item ts >>= fun first => moreItems item first.2 first.2 >>= fun more => pure (first.1 :: more.1, more.2) := by
  conv_lhs => unfold moreItems
  rw [if_pos (Token.isOp_iff.mpr ht)]
  refine bind_congr_ok ?_
  rintro ⟨e, rest⟩ hresult
  have hmore : moreItems item ts rest = moreItems item rest rest :=
    moreItems_rounds hitem (hitem hresult) (Nat.le_refl _)
  simp only [hmore]

theorem moreItems_none (ht : t.lexeme ≠ .op .comma) : moreItems item (t :: ts) (t :: ts) = .ok ([], t :: ts) := by
  simp [moreItems, ht]

theorem moreItems_looks (hitem : LooksAhead Alike item) (ts : List Token) :
    Settles AllAlike ts (moreItems item ts ts) fun ts' => moreItems item ts' ts' := by
  induction hn : ts.length using Nat.strong_induction_on generalizing ts with
  | _ n ih =>
    subst hn
    cases ts with
    | nil =>
      refine .at_once rfl fun ts' hts' => ?_
      obtain rfl := sameNext_nil.mp hts'
      exact .returns rfl
    | cons t ts =>
      by_cases ht : t.lexeme = .op .comma
      · rw [moreItems_comma hitem.shrinks ht]
        refine .token fun t' ht' => ?_
        simp only [moreItems_comma hitem.shrinks (ht'.symm.trans ht)]
        refine (hitem ts).bind fun e e' rest hread he => ?_
        have hle := hitem.shrinks hread
        dsimp only
        refine (ih rest.length (Nat.lt_succ_of_le hle) rest rfl).bind fun es es' after _ hes => ?_
        exact .pure (he.cons hes)
      · rw [moreItems_none ht]
        refine .at_once rfl fun ts' hts' => ?_
        obtain ⟨t', more, rfl, ht'⟩ := sameNext_cons.mp hts'
        rw [moreItems_none (ht' ▸ ht)]
        exact .returns rfl

theorem itemsBefore_looks (close : Operator) (hitem : LooksAhead Alike item) :
    LooksAhead AllAlike (itemsBefore close item) := by
  intro ts
  unfold itemsBefore
  by_cases hclose : ts.head?.any (·.isOp close) = true
  · rw [if_pos hclose]
    refine .at_once rfl fun ts' hts' => ?_
    rw [if_pos (hts'.any_isOp close ▸ hclose)]
    exact .returns rfl
  · rw [if_neg hclose]
    have hitems : Settles AllAlike ts (item ts >>= fun first => moreItems item first.2 first.2 >>= fun more =>
        pure (first.1 :: more.1, more.2)) fun ts' => item ts' >>= fun first => moreItems item first.2 first.2 >>=
          fun more => pure (first.1 :: more.1, more.2) := by
      refine (hitem ts).bind fun e e' rest _ he => ?_
      dsimp only
      refine (moreItems_looks hitem rest).bind fun es es' after _ hes => ?_
      exact .pure (he.cons hes)
    exact hitems.of_next fun ts' hts' => if_neg (hts'.any_isOp close ▸ hclose)

theorem itemsUntil_looks (close : Operator) (hitem : LooksAhead Alike item) :
    LooksAhead AllAlike (itemsUntil close item) := fun ts =>
  (itemsBefore_looks close hitem ts).bind fun _ _ rest _ hes =>
    (expectOp_looks close rest).bind fun _ _ _ _ _ => .pure hes

/-! ## Primaries, accesses and operands -/

theorem primary_looks (hnested : LooksAhead Alike nested) : LooksAhead Alike (primary nested) := by
  intro ts
  cases ts with
  | nil =>
    refine .at_once rfl fun ts' hts' => ?_
    obtain rfl := sameNext_nil.mp hts'
    exact .stops
  | cons t ts =>
    have hvalue : ∀ t' : Token, t.lexeme = t'.lexeme → t.value?.map Expr.unplaced = t'.value?.map Expr.unplaced :=
      fun t' => value?_congr
    rw [primary_eq]
    cases hv : t.value? with
    | some v =>
      refine .token fun t' ht => ?_
      have hv' := hvalue t' ht
      rw [hv, Option.map_some, eq_comm, Option.map_eq_some_iff] at hv'
      obtain ⟨v', hv', halike⟩ := hv'
      simp only [primary_eq, hv']
      exact .pure halike.symm
    | none =>
      have hnone : ∀ t' : Token, t.lexeme = t'.lexeme → t'.value? = none := fun t' ht => by
        have hv' := hvalue t' ht
        rw [hv, Option.map_none, eq_comm, Option.map_eq_none_iff] at hv'
        exact hv'
      dsimp only
      split
      case h_1 hopen =>
        refine .token fun t' ht => ?_
        simp only [primary_eq, hnone t' ht, ← ht, hopen]
        refine (hnested ts).bind fun e e' rest _ he => ?_
        dsimp only
        refine (expectOp_looks .closeParen rest).bind fun _ _ after _ _ => ?_
        exact .pure he
      case h_2 hopen =>
        refine .token fun t' ht => ?_
        simp only [primary_eq, hnone t' ht, ← ht, hopen]
        refine (itemsUntil_looks .closeBracket hnested ts).bind fun es es' rest _ hes => ?_
        exact .pure hes.array
      case h_3 hname =>
        refine .at_once rfl fun ts' hts' => ?_
        obtain ⟨t', more, rfl, ht⟩ := sameNext_cons.mp hts'
        simp only [primary_eq, hnone t' ht, ← ht, hname]
        exact .stops
      case h_4 hparen hbracket hname =>
        refine .at_once rfl fun ts' hts' => ?_
        obtain ⟨t', more, rfl, ht⟩ := sameNext_cons.mp hts'
        rw [primary_eq, hnone t' ht]
        dsimp only
        split
        · next hopen => exact absurd (ht.trans hopen) hparen
        · next hopen => exact absurd (ht.trans hopen) hbracket
        · next hother => exact absurd (ht.trans hother) (hname _)
        · exact .stops

/-- What a token may do after an access. -/
theorem access_cases (t : Token) : (t.lexeme = .op .dot ∨ t.lexeme = .op .guardedDot) ∨ t.lexeme = .op .openBracket ∨
    t.lexeme = .op .openParen ∨ ∀ ts, Quiet Stratum.access.bound (t :: ts) := by
  by_cases hquiet : Stratum.access.bound ≤ t.reach
  · exact .inr (.inr (.inr fun ts => quiet_cons.mpr hquiet))
  · unfold Token.reach at hquiet
    split at hquiet
    · exact absurd (Nat.le_add_left 1 _) hquiet
    · split at hquiet
      case h_1 ht | h_2 ht | h_3 ht | h_4 ht => simp [ht]
      all_goals exact absurd (by decide) hquiet

theorem quiet_congr {b : Nat} {more : List Token} (h : t.lexeme = t'.lexeme) (hquiet : Quiet b (t :: ts)) :
    Quiet b (t' :: more) := by
  rw [quiet_cons] at hquiet ⊢
  unfold Token.reach at hquiet ⊢
  rwa [← level?_congr (congrArg Lexeme.connective? h), ← h]

theorem postfixRest_rest (hnested : LooksAhead Alike nested) (h : rest.length ≤ ts.length) :
    postfixRest nested ts e rest = postfixRest nested rest e rest :=
  postfixRest_rounds hnested.shrinks (itemsUntil_looks .closeParen hnested).shrinks h (Nat.le_refl _)

theorem postfixRest_member (hnested : LooksAhead Alike nested) {s : String} {pos : Nat}
    (ht : t.lexeme = .op .dot ∨ t.lexeme = .op .guardedDot) :
    postfixRest nested (t :: ⟨.name s, pos⟩ :: ts) e (t :: ⟨.name s, pos⟩ :: ts) =
      postfixRest nested ts (.member t.pos e s (t.isOp .guardedDot)) ts := by
  conv_lhs => unfold postfixRest
  rcases ht with ht | ht <;> rw [ht] <;> exact postfixRest_rest hnested (Nat.le_succ _)

/-- After a point comes a name and nothing else. -/
theorem postfixRest_nameless (ht : t.lexeme = .op .dot ∨ t.lexeme = .op .guardedDot)
    (hnext : ∀ u ∈ ts.head?, ∀ s, u.lexeme ≠ .name s) :
    postfixRest nested (t :: ts) e (t :: ts) = .error ⟨.propertyName, ts⟩ := by
  unfold postfixRest
  rcases ht with ht | ht <;> rw [ht] <;> dsimp only <;> split <;> first | rfl | exact absurd rfl (hnext _ rfl _)

theorem postfixRest_index (hnested : LooksAhead Alike nested) (ht : t.lexeme = .op .openBracket) :
    postfixRest nested (t :: ts) e (t :: ts) =
      nested ts >>= fun key => expectOp .closeBracket key.2 >>= fun closed =>
        postfixRest nested closed.2 (.index t.pos e key.1 false) closed.2 := by
  conv_lhs => unfold postfixRest
  rw [ht]
  refine bind_congr_ok ?_
  rintro ⟨key, before⟩ hkey
  refine bind_congr_ok ?_
  rintro ⟨closed, after⟩ hclosed
  have hle := hnested.shrinks hkey
  obtain ⟨c, -, rfl⟩ := expectOp_eq_ok.mp hclosed
  exact postfixRest_rest hnested (by rw [List.length_cons] at hle; omega)

theorem postfixRest_call (hnested : LooksAhead Alike nested) {name : String} (ht : t.lexeme = .op .openParen)
    (hname : calleeName? e = some name) : postfixRest nested (t :: ts) e (t :: ts) =
      itemsUntil .closeParen nested ts >>= fun args => postfixRest nested args.2 (.call t.pos name args.1) args.2 := by
  conv_lhs => unfold postfixRest
  rw [ht]
  dsimp only
  rw [hname]
  refine bind_congr_ok ?_
  rintro ⟨args, rest⟩ hargs
  exact postfixRest_rest hnested ((itemsUntil_looks .closeParen hnested).shrinks hargs)

theorem postfixRest_uncallable (ht : t.lexeme = .op .openParen) (hname : calleeName? e = none) :
    postfixRest nested (t :: ts) e (t :: ts) = .error ⟨.callable, t :: ts⟩ := by
  unfold postfixRest
  rw [ht]
  dsimp only
  rw [hname]

theorem postfixRest_looks (hnested : LooksAhead Alike nested) (ts : List Token) (he : Alike e e') :
    Settles Alike ts (postfixRest nested ts e ts) fun ts' => postfixRest nested ts' e' ts' := by
  -- on the number of tokens: behind an access the loop goes on from fewer
  induction hn : ts.length using Nat.strong_induction_on generalizing ts e e' with
  | _ n ih =>
    subst hn
    cases ts with
    | nil =>
      refine .at_once rfl fun ts' hts' => ?_
      obtain rfl := sameNext_nil.mp hts'
      exact .returns he
    | cons t ts =>
      rcases access_cases t with hdot | hopen | hopen | hquiet
      · by_cases hname : ∃ s pos more, ts = ⟨.name s, pos⟩ :: more
        · obtain ⟨s, pos, more, rfl⟩ := hname
          rw [postfixRest_member hnested hdot]
          refine .token fun t' ht => .token fun u' hu => ?_
          obtain ⟨_, pos'⟩ := u'
          obtain rfl := hu
          simp only [postfixRest_member hnested (ht ▸ hdot), ← isOp_congr ht]
          exact ih more.length (by simp only [List.length_cons]; omega) more (he.member s _) rfl
        · have hnext : ∀ u ∈ ts.head?, ∀ s, u.lexeme ≠ .name s := by
            rintro ⟨lexeme, pos⟩ hu s rfl
            obtain ⟨more, rfl⟩ := List.head?_eq_some_iff.mp hu
            exact hname ⟨s, pos, more, rfl⟩
          rw [postfixRest_nameless hdot hnext]
          refine .token fun t' ht => .at_once rfl fun ts' hts' => ?_
          have hnext' : ∀ u ∈ ts'.head?, ∀ s, u.lexeme ≠ .name s := by
            intro u hu s hs
            obtain ⟨more, rfl⟩ := List.head?_eq_some_iff.mp hu
            obtain ⟨v, others, rfl, hv⟩ := sameNext_cons.mp hts'.symm
            exact hnext v rfl s (hv.symm.trans hs)
          rw [postfixRest_nameless (ht ▸ hdot) hnext']
          exact .stops
      · rw [postfixRest_index hnested hopen]
        refine .token fun t' ht => ?_
        simp only [postfixRest_index hnested (ht.symm.trans hopen)]
        refine (hnested ts).bind fun key key' before hread hkey => ?_
        dsimp only
        refine (expectOp_looks .closeBracket before).bind fun _ _ after hclose _ => ?_
        have hle := hnested.shrinks hread
        obtain ⟨c, -, rfl⟩ := expectOp_eq_ok.mp hclose
        rw [List.length_cons] at hle
        exact ih after.length (by simp only [List.length_cons]; omega) after (he.index hkey) rfl
      · cases hname : calleeName? e with
        | none =>
          rw [postfixRest_uncallable hopen hname]
          refine .at_once rfl fun ts' hts' => ?_
          obtain ⟨t', more, rfl, ht⟩ := sameNext_cons.mp hts'
          rw [postfixRest_uncallable (ht.symm.trans hopen) (he.calleeName?_eq ▸ hname)]
          exact .stops
        | some name =>
          rw [postfixRest_call hnested hopen hname]
          refine .token fun t' ht => ?_
          simp only [postfixRest_call hnested (ht.symm.trans hopen) (he.calleeName?_eq ▸ hname)]
          refine (itemsUntil_looks .closeParen hnested ts).bind fun args args' rest hread hargs => ?_
          have hle := (itemsUntil_looks .closeParen hnested).shrinks hread
          exact ih rest.length (Nat.lt_succ_of_le hle) rest (hargs.call name) rfl
      · rw [postfixRest_quiet _ (hquiet ts)]
        refine .at_once rfl fun ts' hts' => ?_
        obtain ⟨t', more, rfl, ht⟩ := sameNext_cons.mp hts'
        rw [postfixRest_quiet _ (quiet_congr ht (hquiet ts))]
        exact .returns he

theorem postfixExpr_looks (hnested : LooksAhead Alike nested) : LooksAhead Alike (postfixExpr nested) := fun ts =>
  (primary_looks hnested ts).bind fun _ _ rest _ he => postfixRest_looks hnested rest he

theorem prefixExpr_looks {deeper : Option (Reader Expr)} (hdeeper : ∀ r ∈ deeper, LooksAhead Alike r)
    (hnested : LooksAhead Alike nested) : LooksAhead Alike (prefixExpr deeper nested) := by
  intro ts
  cases ts with
  | nil =>
    refine (postfixExpr_looks hnested []).of_next fun ts' hts' => ?_
    obtain rfl := sameNext_nil.mp hts'
    rfl
  | cons t ts =>
    cases hop : prefixOp? t with
    | none =>
      have hplain : ∀ {t ts}, prefixOp? t = none →
          prefixExpr deeper nested (t :: ts) = postfixExpr nested (t :: ts) := by
        intro t ts hop
        simp only [prefixExpr, hop]
      rw [hplain hop]
      refine (postfixExpr_looks hnested (t :: ts)).of_next fun ts' hts' => ?_
      obtain ⟨t', more, rfl, ht⟩ := sameNext_cons.mp hts'
      exact hplain (prefixOp?_congr ht ▸ hop)
    | some op =>
      cases deeper with
      | none =>
        simp only [prefixExpr, hop]
        refine .at_once rfl fun ts' hts' => ?_
        obtain ⟨t', more, rfl, ht⟩ := sameNext_cons.mp hts'
        simp only [prefixExpr, ← prefixOp?_congr ht, hop]
        exact .stops
      | some operand =>
        simp only [prefixExpr, hop]
        refine .token fun t' ht => ?_
        simp only [prefixExpr, ← prefixOp?_congr ht, hop]
        refine (hdeeper operand rfl ts).bind fun e e' rest _ he => ?_
        exact .pure (he.prefixed op)

/-! ## Infix levels and conditionals -/

theorem chainRest_joint {joint : Joint} (hoperand : LooksAhead Alike operand) (ht : l.joint? t = some joint) :
    chainRest l.joint? operand (t :: ts) e (t :: ts) =
      operand ts >>= fun right => chainRest l.joint? operand right.2 (joint e right.1) right.2 := by
  conv_lhs => unfold chainRest
  rw [ht]
  refine bind_congr_ok ?_
  rintro ⟨right, rest⟩ hread
  exact chainRest_rounds hoperand.shrinks (hoperand.shrinks hread) (Nat.le_refl _)

theorem chainRest_closed (ht : l.joint? t = none) (rounds : List Token) :
    chainRest l.joint? operand rounds e (t :: ts) = .ok (e, t :: ts) := by
  cases rounds with
  | nil => rfl
  | cons round rounds => simp only [chainRest, ht]

theorem chainRest_looks (hoperand : LooksAhead Alike operand) (ts : List Token) (he : Alike e e') :
    Settles Alike ts (chainRest l.joint? operand ts e ts) fun ts' => chainRest l.joint? operand ts' e' ts' := by
  induction hn : ts.length using Nat.strong_induction_on generalizing ts e e' with
  | _ n ih =>
    subst hn
    cases ts with
    | nil =>
      refine .at_once rfl fun ts' hts' => ?_
      obtain rfl := sameNext_nil.mp hts'
      exact .returns he
    | cons t ts =>
      by_cases hl : t.level? = some l
      · rw [chainRest_joint hoperand (if_pos hl)]
        refine .token fun t' ht => ?_
        have hconnective := congrArg Lexeme.connective? ht
        simp only [chainRest_joint hoperand (if_pos (level?_congr hconnective ▸ hl))]
        refine (hoperand ts).bind fun right right' rest hread hright => ?_
        have hle := hoperand.shrinks hread
        exact ih rest.length (Nat.lt_succ_of_le hle) rest (alike_join hconnective he hright) rfl
      · rw [chainRest_closed (if_neg hl)]
        refine .at_once rfl fun ts' hts' => ?_
        obtain ⟨t', more, rfl, ht⟩ := sameNext_cons.mp hts'
        rw [chainRest_closed (if_neg (level?_congr (congrArg Lexeme.connective? ht) ▸ hl))]
        exact .returns he

theorem chain_looks (hoperand : LooksAhead Alike operand) : LooksAhead Alike (chain operand l.joint?) := fun ts =>
  (hoperand ts).bind fun _ _ rest _ he => chainRest_looks hoperand rest he

theorem binaryExpr_looks (hoperand : LooksAhead Alike operand) : LooksAhead Alike (binaryExpr operand) :=
  binaryExpr_climbs (P := fun _ reader => LooksAhead Alike reader) hoperand fun _ _ => chain_looks

theorem conditionalExpr_looks (hbranch : LooksAhead Alike branch) (hoperand : LooksAhead Alike operand) :
    LooksAhead Alike (conditionalExpr branch operand) := by
  intro ts
  refine (binaryExpr_looks hoperand ts).bind fun test test' rest _ htest => ?_
  cases rest with
  | nil =>
    refine .at_once rfl fun ts' hts' => ?_
    obtain rfl := sameNext_nil.mp hts'
    exact .returns htest
  | cons t more =>
    dsimp only
    by_cases hquestion : t.isOp .question = true
    · rw [if_pos hquestion]
      refine .token fun t' ht => ?_
      simp only [← isOp_congr ht, hquestion, if_true]
      refine (hbranch more).bind fun yes yes' before _ hyes => ?_
      dsimp only
      refine (expectOp_looks .colon before).bind fun _ _ middle _ _ => ?_
      dsimp only
      refine (hbranch middle).bind fun no no' after _ hno => ?_
      exact .pure (htest.conditional hyes hno)
    · rw [if_neg hquestion]
      refine .at_once rfl fun ts' hts' => ?_
      obtain ⟨t', more', rfl, ht⟩ := sameNext_cons.mp hts'
      dsimp only
      rw [if_neg (isOp_congr ht _ ▸ hquestion)]
      exact .returns htest

/-- Both readers settle everything one token ahead, however many levels they may open. -/
theorem readers_look (n : Nat) : LooksAhead Alike (readers n).1 ∧ LooksAhead Alike (readers n).2 := by
  refine readers_deepen (P := fun _ _ r => LooksAhead Alike r) ?_ ?_ ?_ n
  · exact fun ts => .at_once rfl fun _ _ => .stops
  · intro n branch operand hbranch hoperand
    exact conditionalExpr_looks hbranch hoperand
  · intro n deeper whole hdeeper _ hwhole
    exact prefixExpr_looks hdeeper hwhole

/-- Where the reading of all tokens stops, it stops as soon as they have come that far. -/
theorem readTokens_stops {stop : Stop} (h : readTokens ts = .error stop) : ∃ taken, ts = taken ++ stop.rest ∧
    ∀ taken' rest', SameLexemes taken taken' → SameNext stop.rest rest' →
      readTokens (taken' ++ rest') = .error ⟨stop.want, rest'⟩ := by
  obtain ⟨taken, hts, hsettled⟩ := (readers_look maxNesting).1 ts
  unfold readTokens at h ⊢
  generalize (readers maxNesting).1 ts = outcome at h hts hsettled
  cases outcome with
  | error stop' =>
    obtain rfl : stop' = stop := by simpa [bind, Except.bind] using h
    refine ⟨taken, hts, fun taken' rest' htaken hrest => ?_⟩
    have hsame := hsettled taken' rest' htaken hrest
    generalize (readers maxNesting).1 (taken' ++ rest') = outcome' at hsame ⊢
    cases hsame
    rfl
  | ok result =>
    obtain ⟨e, rest⟩ := result
    cases rest with
    | nil => simp [bind, Except.bind, pure, Except.pure] at h
    | cons t more =>
      obtain rfl : (⟨.endOfSource, t :: more⟩ : Stop) = stop := by
        simpa [bind, Except.bind, throw, throwThe, MonadExceptOf.throw] using h
      refine ⟨taken, hts, fun taken' rest' htaken hrest => ?_⟩
      have hsame := hsettled taken' rest' htaken hrest
      obtain ⟨t', more', rfl, -⟩ := sameNext_cons.mp hrest
      generalize (readers maxNesting).1 (taken' ++ t' :: more') = outcome' at hsame ⊢
      cases hsame
      rfl

end CaptionAnimation.Expression
