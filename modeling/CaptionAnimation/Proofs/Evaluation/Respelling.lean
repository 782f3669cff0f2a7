import CaptionAnimation.Proofs.Evaluation.Offsets
import CaptionAnimation.Proofs.Expression.Acceptance

/-! # Spellings of the operators

The words `and`, `or` and `not` are other spellings of `&&`, `||` and `!`, and `===` and `!==` of `==` and `!=`. Only
behind a point is such a word a name. Token lists that differ in these spellings derive from the grammar alike, so that
both are refused, or both are read as trees that differ in offsets only and serve alike. -/
namespace CaptionAnimation.Expression

open Evaluation (ServesAs servesAs_of_alike)

variable {S : Stratum} {p : Phrase} {t t' : Token} {ts ts' rest : List Token} {o : Operator}

/-! ## Lexemes -/

/-- The one spelling that stands for all spellings of an operator. -/
def Lexeme.symbol : Lexeme → Lexeme
  | .name "and" => .op .and
  | .name "or" => .op .or
  | .name "not" => .op .not
  | .op .strictEqual => .op .equal
  | .op .strictNotEqual => .op .notEqual
  | l => l

theorem Lexeme.connective?_symbol (l : Lexeme) : l.symbol.connective? = l.connective? := by
  unfold symbol
  split <;> rfl

/-- Brackets, points, commas and the parts of a conditional have one spelling. -/
theorem Lexeme.symbol_eq_op {l : Lexeme} (ho : o.connective? = none) (hnot : o ≠ .not) :
    l.symbol = .op o ↔ l = .op o := by
  constructor
  · intro h
    unfold symbol at h
    split at h
    case h_3 => exact absurd (op.inj h).symm hnot
    case h_6 => exact h
    all_goals
      obtain rfl := op.inj h
      cases ho
  · rintro rfl
    cases o <;> first | rfl | cases ho

/-- Two lexemes that spell the same. -/
def SameSymbol (t t' : Token) : Prop := t.lexeme.symbol = t'.lexeme.symbol

namespace SameSymbol

variable (h : SameSymbol t t')

include h

theorem op (ht : t.lexeme = .op o) (ho : o.connective? = none) (hnot : o ≠ .not) : t'.lexeme = .op o := by
  rw [← Lexeme.symbol_eq_op ho hnot] at ht ⊢
  exact h.symm.trans ht

theorem connective? : t.lexeme.connective? = t'.lexeme.connective? := by
  rw [← t.lexeme.connective?_symbol, h, t'.lexeme.connective?_symbol]

theorem level? : t.level? = t'.level? := level?_congr h.connective?

theorem join {x x' y y' : Expr} (hx : Alike x x') (hy : Alike y y') : Alike (t.join x y) (t'.join x' y') :=
  alike_join h.connective? hx hy

theorem prefixOp? : prefixOp? t = prefixOp? t' := by
  have hsymbol : ∀ u : Token, Expression.prefixOp? u = Expression.prefixOp? ⟨u.lexeme.symbol, u.pos⟩ := by
    rintro ⟨lexeme, pos⟩
    unfold Lexeme.symbol
    dsimp only
    split <;> rfl
  rw [hsymbol t, hsymbol t', h]
  rfl

/-- No spelling of an operator is a value. -/
theorem value? : t.value?.map Expr.unplaced = t'.value?.map Expr.unplaced := by
  have hsymbol : ∀ u : Token, u.value? = Token.value? ⟨u.lexeme.symbol, u.pos⟩ := by
    rintro ⟨lexeme, pos⟩
    unfold Lexeme.symbol
    dsimp only
    split <;> rfl
  rw [hsymbol t, hsymbol t', h]
  exact value?_congr rfl

end SameSymbol

/-! ## Token lists -/

/-- What a property name stands behind. -/
def Token.isPoint (t : Token) : Bool := t.isOp .dot || t.isOp .guardedDot

/-- Two token lists that differ in the spellings of operators and in offsets only. Behind a point a word is a name, and
stays. -/
inductive Respelt : (afterPoint : Bool) → List Token → List Token → Prop
  | nil {afterPoint : Bool} : Respelt afterPoint [] []
  | cons {afterPoint : Bool} {t t' : Token} {ts ts' : List Token} : SameSymbol t t' →
      (afterPoint = true → ∀ s, t.lexeme = .name s ↔ t'.lexeme = .name s) → Respelt t.isPoint ts ts' →
      Respelt afterPoint (t :: ts) (t' :: ts')

theorem SameSymbol.isPoint (h : SameSymbol t t') : t.isPoint = t'.isPoint := by
  have hop : ∀ o : Operator, o.connective? = none → o ≠ .not → t.isOp o = t'.isOp o := fun o ho hnot => by
    rw [Bool.eq_iff_iff, Token.isOp_iff, Token.isOp_iff]
    exact ⟨fun ht => h.op ht ho hnot, fun ht => SameSymbol.op h.symm ht ho hnot⟩
  rw [Token.isPoint, Token.isPoint, hop .dot rfl (by decide), hop .guardedDot rfl (by decide)]

theorem Token.isPoint_of_op (ht : t.lexeme = .op o) (hdot : o ≠ .dot) (hguarded : o ≠ .guardedDot) :
    t.isPoint = false := by
  simp [isPoint, isOp, ht, hdot, hguarded]

namespace Respelt

theorem symm {afterPoint : Bool} (h : Respelt afterPoint ts ts') : Respelt afterPoint ts' ts := by
  induction h with
  | nil => exact .nil
  | cons ht hkeep _ ih => exact .cons ht.symm (fun hpoint s => (hkeep hpoint s).symm) (ht.isPoint ▸ ih)

/-- Where the next token is no point, what comes behind it may be spelt in any way. -/
theorem next (h : Respelt false (t :: ts) ts') (ht : t.isPoint = false) :
    ∃ t' more, ts' = t' :: more ∧ SameSymbol t t' ∧ Respelt false ts more := by
  cases h with
  | cons hsymbol _ hmore => exact ⟨_, _, rfl, hsymbol, ht ▸ hmore⟩

/-- A bracket, a comma or a part of a conditional comes in both lists. -/
theorem next_op (h : Respelt false (t :: ts) ts') (ht : t.lexeme = .op o) (ho : o.connective? = none)
    (hnot : o ≠ .not) (hdot : o ≠ .dot) (hguarded : o ≠ .guardedDot) :
    ∃ t' more, ts' = t' :: more ∧ t'.lexeme = .op o ∧ Respelt false ts more := by
  obtain ⟨t', more, rfl, hsymbol, hmore⟩ := h.next (Token.isPoint_of_op ht hdot hguarded)
  exact ⟨t', more, rfl, hsymbol.op ht ho hnot, hmore⟩

/-- A point comes in both lists, and so does the name behind it. -/
theorem next_member {name : String} {pos : Nat} (h : Respelt false (t :: ⟨.name name, pos⟩ :: ts) ts')
    (ht : t.lexeme = .op .dot ∨ t.lexeme = .op .guardedDot) :
    ∃ t' pos' more, ts' = t' :: ⟨.name name, pos'⟩ :: more ∧ t'.lexeme = t.lexeme ∧ Respelt false ts more := by
  have hpoint : t.isPoint = true := by rcases ht with ht | ht <;> simp [Token.isPoint, ht]
  cases h with
  | @cons _ _ t' _ _ hsymbol _ hmore =>
    rw [hpoint] at hmore
    cases hmore with
    | @cons _ _ u' _ more _ hkeep hmore =>
      obtain ⟨_, pos'⟩ := u'
      obtain rfl := (hkeep rfl name).mp rfl
      refine ⟨t', pos', more, rfl, ?_, hmore⟩
      rcases ht with ht | ht
      · rw [hsymbol.op ht rfl (by decide), ht]
      · rw [hsymbol.op ht rfl (by decide), ht]

end Respelt

/-! ## Phrases -/

/-- A phrase of the same stratum with the same tree, but for offsets, that opens as many levels. -/
structure Phrase.Respells (S : Stratum) (p p' : Phrase) : Prop where
  derives : Derives S p'
  nesting : p'.nesting = p.nesting
  tree : Alike p.tree p'.tree
  trees : AllAlike p.trees p'.trees

theorem Token.isPoint_of_value? (h : t.value?.isSome) : t.isPoint = false := by
  obtain ⟨lexeme, pos⟩ := t
  cases lexeme <;> simp_all [Token.value?, Token.isPoint, Token.isOp]

theorem Token.isPoint_of_level? {l : Level} (h : t.level? = some l) : t.isPoint = false := by
  obtain ⟨lexeme, pos⟩ := t
  cases lexeme with
  | op o => cases o <;> first | rfl | simp [Token.level?, Lexeme.connective?, Operator.connective?] at h
  | _ => rfl

theorem Token.isPoint_of_prefixOp? (h : (prefixOp? t).isSome) : t.isPoint = false := by
  obtain ⟨lexeme, pos⟩ := t
  cases lexeme with
  | op o => cases o <;> first | rfl | simp [prefixOp?] at h
  | _ => rfl

/-- Where a phrase stands in one list, a phrase with the same tree stands in the other. The induction follows the
productions: what a phrase ends with is no point, so that any spelling may come behind it. -/
theorem Derives.respelt (h : Derives S p) (hts : Respelt false (p.tokens ++ rest) ts') :
    ∃ p' rest', ts' = p'.tokens ++ rest' ∧ p.Respells S p' ∧ Respelt false rest rest' := by
  induction h generalizing rest ts' with
  | @value t hvalue =>
    obtain ⟨t', more, rfl, hsymbol, hmore⟩ := hts.next (Token.isPoint_of_value? hvalue)
    have hsame := hsymbol.value?
    obtain ⟨v, hv⟩ := Option.isSome_iff_exists.mp hvalue
    rw [hv, Option.map_some, eq_comm, Option.map_eq_some_iff] at hsame
    obtain ⟨v', hv', halike⟩ := hsame
    have htree : Alike (Phrase.value t).tree (Phrase.value t').tree := by
      simp only [Phrase.tree, hv, hv', Option.getD_some]
      exact halike.symm
    exact ⟨.value t', more, rfl, ⟨.value (by simp [hv']), rfl, htree, rfl⟩, hmore⟩
  | @group o c body ho _ hc ih =>
    simp only [Phrase.tokens, List.cons_append, List.append_assoc, List.nil_append] at hts
    obtain ⟨o', _, rfl, ho', hbody⟩ := hts.next_op ho rfl (by decide) (by decide) (by decide)
    obtain ⟨q, _, rfl, hq, hclose⟩ := ih hbody
    obtain ⟨c', more, rfl, hc', hmore⟩ := hclose.next_op hc rfl (by decide) (by decide) (by decide)
    exact ⟨.group o' q c', more, by simp [Phrase.tokens],
      ⟨.group ho' hq.derives hc', by simp [Phrase.nesting, hq.nesting], hq.tree, rfl⟩, hmore⟩
  | @array o c content ho _ hc ih =>
    simp only [Phrase.tokens, List.cons_append, List.append_assoc, List.nil_append] at hts
    obtain ⟨o', _, rfl, ho', hcontent⟩ := hts.next_op ho rfl (by decide) (by decide) (by decide)
    obtain ⟨q, _, rfl, hq, hclose⟩ := ih hcontent
    obtain ⟨c', more, rfl, hc', hmore⟩ := hclose.next_op hc rfl (by decide) (by decide) (by decide)
    exact ⟨.array o' q c', more, by simp [Phrase.tokens], ⟨.array ho' hq.derives hc', hq.nesting, hq.trees.array, rfl⟩,
      hmore⟩
  | primary _ ih =>
    obtain ⟨q, more, rfl, hq, hmore⟩ := ih hts
    exact ⟨q, more, rfl, ⟨.primary hq.derives, hq.nesting, hq.tree, hq.trees⟩, hmore⟩
  | @member obj dot name pos _ hdot ih =>
    simp only [Phrase.tokens, List.append_assoc, List.cons_append, List.nil_append] at hts
    obtain ⟨q, _, rfl, hq, hpoint⟩ := ih hts
    -- the word behind the point is the same in both lists, since there it is a name
    obtain ⟨dot', pos', more, rfl, hdot', hmore⟩ := hpoint.next_member hdot
    refine ⟨.member q dot' name pos', more, by simp [Phrase.tokens], ⟨?_, hq.nesting, ?_, rfl⟩, hmore⟩
    · exact .member hq.derives (by rwa [hdot'])
    · simp only [Phrase.tree, isOp_congr hdot']
      exact hq.tree.member name _
  | @index obj key o c _ ho _ hc ihobj ihkey =>
    simp only [Phrase.tokens, List.append_assoc, List.cons_append, List.nil_append] at hts
    obtain ⟨q, _, rfl, hq, hopen⟩ := ihobj hts
    obtain ⟨o', _, rfl, ho', hkey⟩ := hopen.next_op ho rfl (by decide) (by decide) (by decide)
    obtain ⟨k, _, rfl, hk, hclose⟩ := ihkey hkey
    obtain ⟨c', more, rfl, hc', hmore⟩ := hclose.next_op hc rfl (by decide) (by decide) (by decide)
    exact ⟨.index q o' k c', more, by simp [Phrase.tokens],
      ⟨.index hq.derives ho' hk.derives hc', by simp [Phrase.nesting, hq.nesting, hk.nesting], hq.tree.index hk.tree,
        rfl⟩,
      hmore⟩
  | @call callee args o c _ hname ho _ hc ihcallee ihargs =>
    simp only [Phrase.tokens, List.append_assoc, List.cons_append, List.nil_append] at hts
    obtain ⟨q, _, rfl, hq, hopen⟩ := ihcallee hts
    obtain ⟨o', _, rfl, ho', hargs⟩ := hopen.next_op ho rfl (by decide) (by decide) (by decide)
    obtain ⟨a, _, rfl, ha, hclose⟩ := ihargs hargs
    obtain ⟨c', more, rfl, hc', hmore⟩ := hclose.next_op hc rfl (by decide) (by decide) (by decide)
    have hsame := hq.tree.calleeName?_eq
    refine ⟨.call q o' a c', more, by simp [Phrase.tokens],
      ⟨.call hq.derives (hsame ▸ hname) ho' ha.derives hc', by simp [Phrase.nesting, hq.nesting, ha.nesting], ?_, rfl⟩,
      hmore⟩
    simp only [Phrase.tree, hsame]
    exact ha.trees.call _
  | access _ ih =>
    obtain ⟨q, more, rfl, hq, hmore⟩ := ih hts
    exact ⟨q, more, rfl, ⟨.access hq.derives, hq.nesting, hq.tree, hq.trees⟩, hmore⟩
  | @prefixed op operand hop _ ih =>
    simp only [Phrase.tokens, List.cons_append] at hts
    obtain ⟨op', _, rfl, hsymbol, hoperand⟩ := hts.next (Token.isPoint_of_prefixOp? hop)
    obtain ⟨q, more, rfl, hq, hmore⟩ := ih hoperand
    refine ⟨.prefixed op' q, more, by simp [Phrase.tokens],
      ⟨.prefixed (hsymbol.prefixOp? ▸ hop) hq.derives, by simp [Phrase.nesting, hq.nesting], ?_, rfl⟩, hmore⟩
    simp only [Phrase.tree, hsymbol.prefixOp?]
    exact hq.tree.prefixed _
  | tighter _ ih =>
    obtain ⟨q, more, rfl, hq, hmore⟩ := ih hts
    exact ⟨q, more, rfl, ⟨.tighter hq.derives, hq.nesting, hq.tree, hq.trees⟩, hmore⟩
  | @infixed l left right op _ hl _ ihleft ihright =>
    simp only [Phrase.tokens, List.append_assoc, List.cons_append] at hts
    obtain ⟨q, _, rfl, hq, hop⟩ := ihleft hts
    obtain ⟨op', _, rfl, hsymbol, hright⟩ := hop.next (Token.isPoint_of_level? hl)
    obtain ⟨r, more, rfl, hr, hmore⟩ := ihright hright
    exact ⟨.infixed q op' r, more, by simp [Phrase.tokens],
      ⟨.infixed hq.derives (hsymbol.level? ▸ hl) hr.derives, by simp [Phrase.nesting, hq.nesting, hr.nesting],
        hsymbol.join hq.tree hr.tree, rfl⟩, hmore⟩
  | binary _ ih =>
    obtain ⟨q, more, rfl, hq, hmore⟩ := ih hts
    exact ⟨q, more, rfl, ⟨.binary hq.derives, hq.nesting, hq.tree, hq.trees⟩, hmore⟩
  | @conditional test yes no q colon _ hq _ hcolon _ ihtest ihyes ihno =>
    simp only [Phrase.tokens, List.append_assoc, List.cons_append] at hts
    obtain ⟨a, _, rfl, ha, hquestion⟩ := ihtest hts
    obtain ⟨q', _, rfl, hq', hyes⟩ := hquestion.next_op hq rfl (by decide) (by decide) (by decide)
    obtain ⟨b, _, rfl, hb, hmiddle⟩ := ihyes hyes
    obtain ⟨colon', _, rfl, hcolon', hno⟩ := hmiddle.next_op hcolon rfl (by decide) (by decide) (by decide)
    obtain ⟨c, more, rfl, hc, hmore⟩ := ihno hno
    exact ⟨.conditional a q' b colon' c, more, by simp [Phrase.tokens],
      ⟨.conditional ha.derives hq' hb.derives hcolon' hc.derives,
        by simp [Phrase.nesting, ha.nesting, hb.nesting, hc.nesting], ha.tree.conditional hb.tree hc.tree, rfl⟩, hmore⟩
  | noItems => exact ⟨.empty, ts', rfl, ⟨.noItems, rfl, rfl, rfl⟩, hts⟩
  | items _ _ ihfirst ihrest =>
    simp only [Phrase.tokens, List.append_assoc] at hts
    obtain ⟨a, _, rfl, ha, hrest⟩ := ihfirst hts
    obtain ⟨b, more, rfl, hb, hmore⟩ := ihrest hrest
    exact ⟨.items a b, more, by simp [Phrase.tokens],
      ⟨.items ha.derives hb.derives, by simp [Phrase.nesting, ha.nesting, hb.nesting], rfl, ha.tree.cons hb.trees⟩,
      hmore⟩
  | noFurther => exact ⟨.empty, ts', rfl, ⟨.noFurther, rfl, rfl, rfl⟩, hts⟩
  | @further comma next others hcomma _ _ ihnext ihrest =>
    simp only [Phrase.tokens, List.append_assoc, List.cons_append] at hts
    obtain ⟨comma', _, rfl, hcomma', hnext⟩ := hts.next_op hcomma rfl (by decide) (by decide) (by decide)
    obtain ⟨a, _, rfl, ha, hrest⟩ := ihnext hnext
    obtain ⟨b, more, rfl, hb, hmore⟩ := ihrest hrest
    exact ⟨.further comma' a b, more, by simp [Phrase.tokens],
      ⟨.further hcomma' ha.derives hb.derives, by simp [Phrase.nesting, ha.nesting, hb.nesting], rfl,
        ha.tree.cons hb.trees⟩, hmore⟩

/-! ## Readings -/

/-- Both are refused, or both are trees that differ in offsets only and serve alike. -/
inductive ReadAlike {ε : Type} : Except ε Expr → Except ε Expr → Prop
  | trees {e e' : Expr} : Alike e e' → ServesAs e e' → ReadAlike (.ok e) (.ok e')
  | refused {x y : ε} : ReadAlike (.error x) (.error y)

/-- A tree that is read from one spelling is read from the other. -/
theorem exists_of_respelt {e : Expr} (h : Respelt false ts ts') (he : readTokens ts = .ok e) :
    ∃ e', readTokens ts' = .ok e' ∧ Alike e e' := by
  obtain ⟨p, ⟨hp, rfl, hnesting⟩, rfl⟩ := readTokens_eq_ok_iff.mp he
  rw [← p.tokens.append_nil] at h
  obtain ⟨q, more, rfl, hq, hmore⟩ := hp.respelt h
  cases hmore
  rw [List.append_nil]
  exact ⟨q.tree, readTokens_eq_ok_iff.mpr ⟨q, ⟨hq.derives, rfl, hq.nesting ▸ hnesting⟩, rfl⟩, hq.tree⟩

/-- Whatever accepts what `readTokens` accepts reads two spellings alike. -/
theorem readAlike_of_respelt {ε : Type} {x y : Except ε Expr} (h : Respelt false ts ts')
    (hx : ∀ e, x = .ok e ↔ readTokens ts = .ok e) (hy : ∀ e, y = .ok e ↔ readTokens ts' = .ok e) : ReadAlike x y := by
  cases x with
  | ok e =>
    obtain ⟨e', hread, halike⟩ := exists_of_respelt h ((hx e).mp rfl)
    rw [(hy e').mpr hread]
    exact .trees halike (servesAs_of_alike halike)
  | error stop =>
    cases y with
    | error stop' => exact .refused
    | ok e' =>
      obtain ⟨e, hread, -⟩ := exists_of_respelt h.symm ((hy e').mp rfl)
      cases (hx e).mpr hread

/-- Token lists that differ in the spellings of operators are both refused or both read as one tree, but for offsets,
and so are sources with such tokens. The tree has one meaning, one rank and one analysis. -/
theorem respelt_readAlike (h : Respelt false ts ts') :
    ReadAlike (readTokens ts) (readTokens ts') ∧
    ∀ source source', scan source = .ok ts → scan source' = .ok ts' → ReadAlike (parse source) (parse source') := by
  refine ⟨readAlike_of_respelt h (fun _ => Iff.rfl) (fun _ => Iff.rfl), fun source source' hts hts' => ?_⟩
  have hparse : ∀ {source ts}, scan source = .ok ts → ∀ e, parse source = .ok e ↔ readTokens ts = .ok e :=
    fun hts e => by rw [parse_eq_ok_iff hts, readTokens_eq_ok_iff]
  exact readAlike_of_respelt h (hparse hts) (hparse hts')

/-- The tokens of `not a and b.or === c`, the last `or` of which is a name. -/
def inWords : List Token :=
  [⟨.name "not", 0⟩, ⟨.name "a", 4⟩, ⟨.name "and", 6⟩, ⟨.name "b", 10⟩, ⟨.op .dot, 11⟩, ⟨.name "or", 12⟩,
    ⟨.op .strictEqual, 15⟩, ⟨.name "c", 19⟩]

/-- The tokens of `!a && b.or == c`. -/
def inSymbols : List Token :=
  [⟨.op .not, 0⟩, ⟨.name "a", 1⟩, ⟨.op .and, 3⟩, ⟨.name "b", 6⟩, ⟨.op .dot, 7⟩, ⟨.name "or", 8⟩, ⟨.op .equal, 11⟩,
    ⟨.name "c", 14⟩]

theorem inWords_respelt : Respelt false inWords inSymbols ∧ (∃ e, readTokens inWords = .ok e) ∧
    ReadAlike (readTokens inWords) (readTokens inSymbols) := by
  have h : Respelt false inWords inSymbols :=
    .cons rfl nofun <| .cons rfl nofun <| .cons rfl nofun <| .cons rfl nofun <| .cons rfl nofun <|
      .cons rfl (fun _ _ => Iff.rfl) <| .cons rfl nofun <| .cons rfl nofun .nil
  exact ⟨h, ⟨_, rfl⟩, (respelt_readAlike h).1⟩

end CaptionAnimation.Expression
