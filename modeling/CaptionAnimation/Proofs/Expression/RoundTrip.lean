import CaptionAnimation.Proofs.Expression.Spelling
import CaptionAnimation.Proofs.Expression.Written

/-! # What is written is read back

The lexemes of a tree spell one phrase whose tree is the tree that was written, but for the positions of its nodes, and
which opens as many levels. So the text of a tree is read as that tree while the levels suffice. -/
namespace CaptionAnimation.Expression

namespace Expr

mutual

/-- The tree with all nodes at offset zero. -/
def unplaced : Expr → Expr
  | literal _ value => literal 0 value
  | array _ items => array 0 (unplacedAll items)
  | name _ s => name 0 s
  | member _ obj s guarded => member 0 obj.unplaced s guarded
  | index _ obj key guarded => index 0 obj.unplaced key.unplaced guarded
  | call _ s args => call 0 s (unplacedAll args)
  | prefixed _ op operand => prefixed 0 op operand.unplaced
  | binary _ op left right => binary 0 op left.unplaced right.unplaced
  | logical _ op left right => logical 0 op left.unplaced right.unplaced
  | conditional _ test yes no => conditional 0 test.unplaced yes.unplaced no.unplaced
  | unknown _ => unknown 0

def unplacedAll : List Expr → List Expr
  | [] => []
  | e :: es => e.unplaced :: unplacedAll es

end

mutual

/-- The levels that the text of the tree opens around its deepest point: an item, an index, a prefix operator and the
parentheses of an operation open one each, and so does each branch of a conditional within its parentheses. -/
def nesting : Expr → Nat
  | literal _ _ | name _ _ | unknown _ => 0
  | array _ items => itemNesting items
  | member _ obj _ _ => obj.nesting
  | index _ obj key _ => max obj.nesting (key.nesting + 1)
  | call _ _ args => itemNesting args
  | prefixed _ _ operand => operand.nesting + 1
  | binary _ _ left right | logical _ _ left right => max left.nesting right.nesting + 1
  | conditional _ test yes no => max test.nesting (max (yes.nesting + 1) (no.nesting + 1)) + 1

def itemNesting : List Expr → Nat
  | [] => 0
  | e :: es => max (e.nesting + 1) (itemNesting es)

end

end Expr

variable {p : Phrase} {t : Token} {ts : List Token}

/-! ## Operands at every level -/

/-- An operand is a phrase of every level, on either side of an operator. -/
theorem Derives.of_operand (h : Derives .operand p) (l : Level) : Derives l.tighter p ∧ Derives (.level l) p := by
  have hproduct : Derives (.level .product) p := .tighter h
  have hsum : Derives (.level .sum) p := .tighter hproduct
  have hcomparison : Derives (.level .comparison) p := .tighter hsum
  have hequality : Derives (.level .equality) p := .tighter hcomparison
  have hconjunction : Derives (.level .conjunction) p := .tighter hequality
  have hdisjunction : Derives (.level .disjunction) p := .tighter hconjunction
  have hcoalescence : Derives (.level .coalescence) p := .tighter hdisjunction
  cases l <;> exact ⟨by assumption, by assumption⟩

theorem Derives.whole_of_level {l : Level} (h : Derives (.level l) p) : Derives .whole p := by
  refine .binary ?_
  cases l with
  | product => exact .tighter (.tighter (.tighter (.tighter (.tighter (.tighter h)))))
  | sum => exact .tighter (.tighter (.tighter (.tighter (.tighter h))))
  | comparison => exact .tighter (.tighter (.tighter (.tighter h)))
  | equality => exact .tighter (.tighter (.tighter h))
  | conjunction => exact .tighter (.tighter h)
  | disjunction => exact .tighter h
  | coalescence => exact h

theorem Derives.whole_of_operand (h : Derives .operand p) : Derives .whole p := (h.of_operand .product).2.whole_of_level

theorem Derives.whole_of_infixed {left right : Phrase} {l : Level} (hleft : Derives .operand left)
    (ht : t.level? = some l) (hright : Derives .operand right) : Derives .whole (.infixed left t right) :=
  .whole_of_level (.infixed (hleft.of_operand l).2 ht (hright.of_operand l).1)

/-! ## The tokens of each lexeme -/

theorem prefixOp?_of_lexeme {op : PrefixOp} (hop : ∀ s, op ≠ .other s) (ht : t.lexeme = op.lexeme) :
    prefixOp? t = some op := by
  unfold prefixOp?
  rw [ht]
  cases op with
  | other s => exact absurd rfl (hop s)
  | _ => rfl

/-- The token of a binary operator stands at some level and joins its sides with the operator. -/
theorem exists_level_binary {op : BinaryOp} (hop : ∀ s, op ≠ .other s) (ht : t.lexeme = op.lexeme) :
    ∃ l, t.level? = some l ∧ ∀ left right, t.join left right = .binary t.pos op left right := by
  unfold Token.level? Token.join
  rw [ht]
  cases op with
  | other s => exact absurd rfl (hop s)
  | _ => exact ⟨_, rfl, fun _ _ => rfl⟩

theorem exists_level_logical {op : LogicalOp} (hop : ∀ s, op ≠ .other s) (ht : t.lexeme = op.lexeme) :
    ∃ l, t.level? = some l ∧ ∀ left right, t.join left right = .logical t.pos op left right := by
  unfold Token.level? Token.join
  rw [ht]
  cases op with
  | other s => exact absurd rfl (hop s)
  | _ => exact ⟨_, rfl, fun _ _ => rfl⟩

theorem value?_of_name {s : String} (hs : s ∉ reservedNames) (ht : t.lexeme = .name s) :
    t.value? = some (.name t.pos s) := by
  simp only [reservedNames, List.mem_append, List.mem_cons, List.not_mem_nil, or_false, not_or] at hs
  obtain ⟨⟨htrue, hfalse, hnull⟩, hop⟩ := hs
  simp [Token.value?, ht, hop]

/-- A constant that is read as itself has one token. -/
theorem exists_value {pos : Nat} {v : Value} (hv : rendersValue v)
    (h : ts.map Token.lexeme = Expr.lexemes (.literal pos v)) : ∃ t, ts = [t] ∧ t.value? = some (.literal t.pos v) := by
  cases v with
  | bool b =>
    obtain ⟨t, rfl, ht⟩ := List.map_eq_singleton_iff.mp h
    exact ⟨t, rfl, by cases b <;> simp [Token.value?, ht]⟩
  | null | text s | number n =>
    obtain ⟨t, rfl, ht⟩ := List.map_eq_singleton_iff.mp h
    exact ⟨t, rfl, by simp [Token.value?, ht]⟩
  | _ => exact hv.elim

/-- Tokens come apart around a lexeme as their lexemes do. -/
theorem exists_split {before after : List Lexeme} {l : Lexeme} (h : ts.map Token.lexeme = before ++ l :: after) :
    ∃ front t back, ts = front ++ t :: back ∧ front.map Token.lexeme = before ∧ t.lexeme = l ∧
      back.map Token.lexeme = after := by
  obtain ⟨front, more, rfl, hfront, hmore⟩ := List.map_eq_append_iff.mp h
  obtain ⟨t, back, rfl, ht, hback⟩ := List.map_eq_cons_iff.mp hmore
  exact ⟨front, t, back, rfl, hfront, ht, hback⟩

/-- Tokens before a last lexeme come apart from its token. -/
theorem exists_closed {before : List Lexeme} {l : Lexeme} (h : ts.map Token.lexeme = before ++ [l]) :
    ∃ inner c, ts = inner ++ [c] ∧ inner.map Token.lexeme = before ∧ c.lexeme = l := by
  obtain ⟨inner, c, rest, rfl, hinner, hc, hrest⟩ := exists_split h
  obtain rfl := List.map_eq_nil_iff.mp hrest
  exact ⟨inner, c, rfl, hinner, hc⟩

/-! ## The phrase of a tree -/

/-- The tokens derive from the grammar as the phrase, and the phrase gives the tree. -/
structure Phrase.Reads (p : Phrase) (e : Expr) (ts : List Token) : Prop where
  operand : Derives .operand p
  access : e.isPrefixed = false → Derives .access p
  tokens : p.tokens = ts
  tree : p.tree.unplaced = e.unplaced
  nesting : p.nesting = e.nesting

/-- The tokens derive as items between brackets, or as further ones, and the phrase gives their trees. -/
structure Phrase.ReadsAll (S : Stratum) (p : Phrase) (es : List Expr) (ts : List Token) : Prop where
  derives : Derives S p
  tokens : p.tokens = ts
  trees : Expr.unplacedAll p.trees = Expr.unplacedAll es
  nesting : p.nesting = Expr.itemNesting es

theorem Phrase.Reads.of_access {e : Expr} (h : Derives .access p) (tokens : p.tokens = ts)
    (tree : p.tree.unplaced = e.unplaced) (nesting : p.nesting = e.nesting) : p.Reads e ts :=
  ⟨.access h, fun _ => h, tokens, tree, nesting⟩

theorem Phrase.Reads.value {e e' : Expr} (ht : t.value? = some e') (htree : e'.unplaced = e.unplaced)
    (hnesting : e.nesting = 0) : (Phrase.value t).Reads e [t] :=
  .of_access (.primary (.value (by rw [ht]; rfl))) rfl (by rw [Phrase.tree, ht]; exact htree) hnesting.symm

namespace Expr

/-- Two sides with an infix token between them, in parentheses. -/
theorem exists_group {left right e : Expr} {l : Lexeme}
    (hleft : ∀ {ts : List Token}, ts.map Token.lexeme = left.lexemes → ∃ p : Phrase, p.Reads left ts)
    (hright : ∀ {ts : List Token}, ts.map Token.lexeme = right.lexemes → ∃ p : Phrase, p.Reads right ts)
    (h : ts.map Token.lexeme = .op .openParen :: (left.lexemes ++ l :: (right.lexemes ++ [.op .closeParen])))
    (hjoins : ∀ t : Token, t.lexeme = l → ∃ level, t.level? = some level ∧
      ∀ x y : Expr, x.unplaced = left.unplaced → y.unplaced = right.unplaced → (t.join x y).unplaced = e.unplaced)
    (hnesting : e.nesting = max left.nesting right.nesting + 1) : ∃ p : Phrase, p.Reads e ts := by
  obtain ⟨o, ts, rfl, ho, h⟩ := List.map_eq_cons_iff.mp h
  obtain ⟨front, t, back, rfl, hfront, ht, hback⟩ := exists_split h
  obtain ⟨inner, c, rfl, hinner, hc⟩ := exists_closed hback
  obtain ⟨p, hp⟩ := hleft hfront
  obtain ⟨q, hq⟩ := hright hinner
  obtain ⟨level, hlevel, hjoin⟩ := hjoins t ht
  have hbody : Derives .whole (.infixed p t q) := .whole_of_infixed hp.operand hlevel hq.operand
  exact ⟨.group o (.infixed p t q) c, .of_access (.primary (.group ho hbody hc))
    (by simp [Phrase.tokens, hp.tokens, hq.tokens]) (hjoin _ _ hp.tree hq.tree)
    (by simp [Phrase.nesting, hnesting, hp.nesting, hq.nesting])⟩

mutual

theorem exists_phrase : (e : Expr) → e.Renderable → {ts : List Token} → ts.map Token.lexeme = e.lexemes →
    ∃ p : Phrase, p.Reads e ts
  | literal pos v, he, ts, h => by
    obtain ⟨t, rfl, ht⟩ := exists_value he.self h
    exact ⟨_, .value ht rfl rfl⟩
  | name _ s, he, ts, h => by
    obtain ⟨t, rfl, ht⟩ := List.map_eq_singleton_iff.mp h
    exact ⟨_, .value (value?_of_name he.self.2 ht) rfl rfl⟩
  | array _ items, he, ts, h => by
    obtain ⟨o, ts, rfl, ho, h⟩ := List.map_eq_cons_iff.mp h
    obtain ⟨inner, c, rfl, hinner, hc⟩ := exists_closed h
    obtain ⟨p, hp⟩ := exists_items items (fun part hpart => he.part hpart) hinner
    exact ⟨.array o p c, .of_access (.primary (.array ho hp.derives hc)) (by simp [Phrase.tokens, hp.tokens])
      (by simp [Phrase.tree, unplaced, hp.trees]) (by simp [Phrase.nesting, nesting, hp.nesting])⟩
  | member _ obj s guarded, he, ts, h => by
    obtain ⟨front, dot, back, rfl, hfront, hdot, hback⟩ := exists_split h
    obtain ⟨⟨_, pos⟩, rfl, rfl⟩ := List.map_eq_singleton_iff.mp hback
    obtain ⟨p, hp⟩ := exists_phrase obj (he.part List.mem_cons_self) hfront
    have hguard : dot.isOp .guardedDot = guarded := by
      cases guarded <;> simp [Token.isOp, hdot]
    refine ⟨.member p dot s pos, .of_access (.member (hp.access he.self.2.1) ?_) (by simp [Phrase.tokens, hp.tokens])
      (by simp [Phrase.tree, unplaced, hp.tree, hguard]) (by simp [Phrase.nesting, nesting, hp.nesting])⟩
    cases guarded
    · exact .inl hdot
    · exact .inr hdot
  | index _ obj key guarded, he, ts, h => by
    obtain ⟨front, o, back, rfl, hfront, ho, hback⟩ := exists_split h
    obtain ⟨inner, c, rfl, hinner, hc⟩ := exists_closed hback
    obtain ⟨p, hp⟩ := exists_phrase obj (he.part (by simp [children])) hfront
    obtain ⟨k, hk⟩ := exists_phrase key (he.part (by simp [children])) hinner
    obtain ⟨hprefixed, rfl⟩ := he.self
    exact ⟨.index p o k c, .of_access (.index (hp.access hprefixed) ho hk.operand.whole_of_operand hc)
      (by simp [Phrase.tokens, hp.tokens, hk.tokens]) (by simp [Phrase.tree, unplaced, hp.tree, hk.tree])
      (by simp [Phrase.nesting, nesting, hp.nesting, hk.nesting])⟩
  | call _ s args, he, ts, h => by
    obtain ⟨callee, ts, rfl, hcallee, h⟩ := List.map_eq_cons_iff.mp h
    obtain ⟨o, ts, rfl, ho, h⟩ := List.map_eq_cons_iff.mp h
    obtain ⟨inner, c, rfl, hinner, hc⟩ := exists_closed h
    obtain ⟨p, hp⟩ := exists_items args (fun part hpart => he.part hpart) hinner
    have hvalue := value?_of_name he.self.2 hcallee
    have htree : (Phrase.value callee).tree = .name callee.pos s := by rw [Phrase.tree, hvalue]; rfl
    have hname : calleeName? (Phrase.value callee).tree = some s := by rw [htree]; rfl
    have hfirst : Derives .access (.value callee) := .primary (.value (by rw [hvalue]; rfl))
    exact ⟨.call (.value callee) o p c, .of_access (.call hfirst (by rw [hname]; rfl) ho hp.derives hc)
      (by simp [Phrase.tokens, hp.tokens]) (by simp [Phrase.tree, unplaced, hvalue, calleeName?, hp.trees])
      (by simp [Phrase.nesting, nesting, hp.nesting])⟩
  | prefixed _ op operand, he, ts, h => by
    obtain ⟨t, back, rfl, ht, hback⟩ := List.map_eq_cons_iff.mp h
    obtain ⟨p, hp⟩ := exists_phrase operand (he.part List.mem_cons_self) hback
    have hop := prefixOp?_of_lexeme he.self ht
    exact ⟨.prefixed t p, .prefixed (by rw [hop]; rfl) hp.operand, nofun, by simp [Phrase.tokens, hp.tokens],
      by simp [Phrase.tree, unplaced, hop, hp.tree], by simp [Phrase.nesting, nesting, hp.nesting]⟩
  | binary _ op left right, he, ts, h => by
    refine exists_group (exists_phrase left (he.part (by simp [children])))
      (exists_phrase right (he.part (by simp [children]))) h (fun t ht => ?_) rfl
    obtain ⟨l, hl, hjoin⟩ := exists_level_binary he.self ht
    exact ⟨l, hl, fun x y hx hy => by simp [hjoin, unplaced, hx, hy]⟩
  | logical _ op left right, he, ts, h => by
    refine exists_group (exists_phrase left (he.part (by simp [children])))
      (exists_phrase right (he.part (by simp [children]))) h (fun t ht => ?_) rfl
    obtain ⟨l, hl, hjoin⟩ := exists_level_logical he.self ht
    exact ⟨l, hl, fun x y hx hy => by simp [hjoin, unplaced, hx, hy]⟩
  | conditional _ test yes no, he, ts, h => by
    obtain ⟨o, ts, rfl, ho, h⟩ := List.map_eq_cons_iff.mp h
    obtain ⟨front, mark, back, rfl, hfront, hmark, hback⟩ := exists_split h
    obtain ⟨middle, colon, back, rfl, hmiddle, hcolon, hback⟩ := exists_split hback
    obtain ⟨inner, c, rfl, hinner, hc⟩ := exists_closed hback
    obtain ⟨p, hp⟩ := exists_phrase test (he.part (by simp [children])) hfront
    obtain ⟨q, hq⟩ := exists_phrase yes (he.part (by simp [children])) hmiddle
    obtain ⟨r, hr⟩ := exists_phrase no (he.part (by simp [children])) hinner
    have hbody : Derives .whole (.conditional p mark q colon r) :=
      .conditional (hp.operand.of_operand .coalescence).2 hmark hq.operand.whole_of_operand hcolon
        hr.operand.whole_of_operand
    exact ⟨.group o (.conditional p mark q colon r) c, .of_access (.primary (.group ho hbody hc))
      (by simp [Phrase.tokens, hp.tokens, hq.tokens, hr.tokens])
      (by simp [Phrase.tree, unplaced, hp.tree, hq.tree, hr.tree])
      (by simp [Phrase.nesting, nesting, hp.nesting, hq.nesting, hr.nesting])⟩
  | unknown _, he, _, _ => he.self.elim

theorem exists_items : (es : List Expr) → (∀ e ∈ es, e.Renderable) → {ts : List Token} →
    ts.map Token.lexeme = itemLexemes es → ∃ p : Phrase, p.ReadsAll .list es ts
  | [], _, ts, h => by
    obtain rfl := List.map_eq_nil_iff.mp h
    exact ⟨.empty, .noItems, rfl, rfl, rfl⟩
  | e :: es, he, ts, h => by
    obtain ⟨front, back, rfl, hfront, hback⟩ := List.map_eq_append_iff.mp h
    obtain ⟨p, hp⟩ := exists_phrase e (he e List.mem_cons_self) hfront
    obtain ⟨q, hq⟩ := exists_further es (fun part hpart => he part (List.mem_cons_of_mem _ hpart)) hback
    exact ⟨.items p q, .items hp.operand.whole_of_operand hq.derives, by simp [Phrase.tokens, hp.tokens, hq.tokens],
      by simp [Phrase.trees, unplacedAll, hp.tree, hq.trees],
      by simp [Phrase.nesting, itemNesting, hp.nesting, hq.nesting]⟩

theorem exists_further : (es : List Expr) → (∀ e ∈ es, e.Renderable) → {ts : List Token} →
    ts.map Token.lexeme = furtherLexemes es → ∃ p : Phrase, p.ReadsAll .tail es ts
  | [], _, ts, h => by
    obtain rfl := List.map_eq_nil_iff.mp h
    exact ⟨.empty, .noFurther, rfl, rfl, rfl⟩
  | e :: es, he, ts, h => by
    obtain ⟨comma, ts, rfl, hcomma, h⟩ := List.map_eq_cons_iff.mp h
    obtain ⟨front, back, rfl, hfront, hback⟩ := List.map_eq_append_iff.mp h
    obtain ⟨p, hp⟩ := exists_phrase e (he e List.mem_cons_self) hfront
    obtain ⟨q, hq⟩ := exists_further es (fun part hpart => he part (List.mem_cons_of_mem _ hpart)) hback
    exact ⟨.further comma p q, .further hcomma hp.operand.whole_of_operand hq.derives,
      by simp [Phrase.tokens, hp.tokens, hq.tokens], by simp [Phrase.trees, unplacedAll, hp.tree, hq.trees],
      by simp [Phrase.nesting, itemNesting, hp.nesting, hq.nesting]⟩

end

/-! ## Reading the text -/

theorem isWritten_of_renders {e : Expr} (h : e.Renders) : e.isWritten = true := by
  cases e with
  | literal pos v =>
    cases v with
    | number n =>
      cases n with
      | double q => rfl
      | int i =>
        obtain ⟨hpositive, hbound⟩ := h
        obtain ⟨k, rfl⟩ := Int.eq_ofNat_of_zero_le hpositive
        have hlt : k < tenTo Number.digitLimit :=
          Nat.lt_of_lt_of_le (by exact_mod_cast hbound) (tenTo_le_tenTo (m := maxNumberLength) (by decide))
        rw [isWritten, Number.text, Number.intText, if_pos (by exact hlt)]
        rfl
    | null | bool b | text s => rfl
    | _ => exact h.elim
  | prefixed _ op | binary _ op | logical _ op =>
    cases op with
    | other s => exact absurd rfl (h s)
    | _ => rfl
  | unknown pos => exact h.elim
  | _ => rfl

theorem Renderable.written {e : Expr} (h : e.Renderable) : e.Written := fun n hn => isWritten_of_renders (h n hn)

/-- The tokens of the text of a tree come from a phrase that gives the tree. -/
theorem Renderable.exists_reads {e : Expr} {text : String} (he : e.Renderable) (h : e.source = .ok text) :
    ∃ (ts : List Token) (p : Phrase), scan text = .ok ts ∧ p.Reads e ts := by
  rw [source_eq] at h
  have hscans := scans_rendered e he h scans_nil ⟨nofun, nofun⟩
  rw [List.append_nil, List.append_nil] at hscans
  obtain ⟨ts, hts, hlexemes⟩ := hscans 0
  obtain ⟨p, hp⟩ := exists_phrase e he hlexemes
  exact ⟨ts, p, by rw [scan, hts], hp⟩

/-- Whatever is read from the text of a tree is the tree, and the levels sufficed. -/
theorem Renderable.of_parse {e e' : Expr} {text : String} (he : e.Renderable) (htext : e.source = .ok text)
    (h : parse text = .ok e') : e'.unplaced = e.unplaced ∧ e.nesting + 1 ≤ 64 := by
  obtain ⟨ts, p, hts, hp⟩ := he.exists_reads htext
  obtain ⟨q, hq, rfl⟩ := (parse_eq_ok_iff hts).mp h
  obtain rfl : q = p := hq.derives.unique hp.operand.whole_of_operand (hq.tokens.trans hp.tokens.symm)
  exact ⟨hp.tree, hp.nesting ▸ hq.nesting⟩

/-- A tree that can be read again has a text, and as long as 64 levels suffice, the text is read as the tree. -/
theorem Renderable.reads_back {e : Expr} (he : e.Renderable) (hlevels : e.nesting + 1 ≤ 64) :
    ∃ text e', e.source = .ok text ∧ parse text = .ok e' ∧ e'.unplaced = e.unplaced := by
  obtain ⟨text, htext⟩ := he.written.source e.mem_nodes_self
  obtain ⟨ts, p, hts, hp⟩ := he.exists_reads htext
  have hspells : p.Spells ts := ⟨hp.operand.whole_of_operand, hp.tokens, hp.nesting ▸ hlevels⟩
  exact ⟨text, p.tree, htext, (parse_eq_ok_iff hts).mpr ⟨p, hspells, rfl⟩, hp.tree⟩

/-- One and a half. -/
def oneAndHalf : Quantity := { value := (Numeral.decimal? false ['1', '.', '5']).getD 0.0 }

theorem isNumber_oneAndHalf : IsNumber (Notation.float oneAndHalf.value) (.double oneAndHalf) := by
  have htext : Notation.float oneAndHalf.value = "1.5" := by decide +kernel
  have hlength : numberLength ['1', '.', '5'] = 3 := by decide
  refine ⟨'1', ['.', '5'], by rw [htext]; rfl, ?_⟩
  rw [lexeme_of_beginsNumber (by decide), hlength]
  rfl

/-- A tree with nodes of every kind. -/
def mixedTree : Expr :=
  conditional 0
    (binary 0 .within (index 0 (member 0 (name 0 "args") "kind" true) (literal 0 (.text "it's \\")) false)
      (array 0 [literal 0 .null, literal 0 (.bool true)]))
    (prefixed 0 .negate (call 0 "round" [literal 0 (.number (.double oneAndHalf)), name 0 "scale"]))
    (logical 0 .coalesce (member 0 (name 0 "stats") "in" false) (literal 0 (.number (.int 12))))

theorem mixedTree_reads_back : mixedTree.Renderable ∧ mixedTree.nesting + 1 ≤ 64 ∧
    ∃ text e', mixedTree.source = .ok text ∧ parse text = .ok e' ∧ e'.unplaced = mixedTree.unplaced := by
  have hrenders : mixedTree.Renderable := by
    simp [Renderable, mixedTree, nodes_eq, children, Renders, rendersValue, isNumber_oneAndHalf, isPrefixed, endsInteger]
    decide
  exact ⟨hrenders, by decide, hrenders.reads_back (by decide)⟩

end Expr
end CaptionAnimation.Expression
