import CaptionAnimation.Proofs.Expression.Acceptance
import CaptionAnimation.Proofs.Expression.Rendering
import Mathlib

/-! # What is read

The trees that are read have plain literals, whose numbers are short enough to be written again, and operators that
have a spelling. Every part of such a tree has a source text. -/
namespace CaptionAnimation.Expression

/-! ## Numbers -/

/-- A run of digits grows by one place with each of them, whatever characters stand for digits. -/
theorem foldl_natOf_lt (cs : List Char) (acc : Nat) :
    cs.foldl (fun n c => 10 * n + (c.toNat - '0'.toNat)) acc < (acc + 10 ^ 10) * 10 ^ cs.length := by
  induction cs generalizing acc with
  | nil => simp
  | cons c cs ih =>
    have hc : c.toNat < 2 ^ 32 := c.val.toNat_lt
    calc cs.foldl (fun n c => 10 * n + (c.toNat - '0'.toNat)) (10 * acc + (c.toNat - '0'.toNat))
        < (10 * acc + (c.toNat - '0'.toNat) + 10 ^ 10) * 10 ^ cs.length := ih _
      _ ≤ ((acc + 10 ^ 10) * 10) * 10 ^ cs.length := Nat.mul_le_mul_right _ (by omega)
      _ = (acc + 10 ^ 10) * 10 ^ (c :: cs).length := by
        rw [List.length_cons, Nat.mul_assoc, ← Nat.pow_succ']

theorem tenTo_le_tenTo {m n : Nat} (h : m ≤ n) : tenTo m ≤ tenTo n := Nat.pow_le_pow_right (Nat.succ_pos 9) h

theorem natOf_lt (cs : List Char) : Numeral.natOf cs < tenTo (cs.length + 10) := by
  have h := foldl_natOf_lt cs 0
  rwa [Nat.zero_add, ← Nat.pow_add, Nat.add_comm] at h

/-- A number of at most a hundred characters can be written. -/
theorem text_numberOf {cs : List Char} (h : cs.length ≤ maxNumberLength) : (numberOf cs).text.isOk = true := by
  unfold numberOf
  split
  · rfl
  · have hlength : cs.length + 10 ≤ Number.digitLimit := by
      simp only [maxNumberLength, Number.digitLimit] at *
      omega
    have hlt : Int.natAbs (Numeral.natOf cs) < tenTo Number.digitLimit :=
      Nat.lt_of_lt_of_le (natOf_lt cs) (tenTo_le_tenTo hlength)
    rw [Number.text, Number.intText, if_pos hlt]
    rfl

/-- A lexeme whose number, if it is one, can be written. -/
def Lexeme.isShort : Lexeme → Bool
  | .number n => n.text.isOk
  | _ => true

theorem isShort_of_lexeme {c : Char} {rest : List Char} {l : Lexeme} {n : Nat} (h : lexeme c rest = .ok (l, n)) :
    l.isShort = true := by
  unfold lexeme at h
  split at h
  · dsimp only at h
    split at h
    · cases h
    · next hn =>
      obtain ⟨rfl, -⟩ := Prod.mk.inj (Except.ok.inj h)
      exact text_numberOf (Nat.le_trans (List.length_take_le _ _) (Nat.not_lt.mp hn))
  · split at h
    · split at h
      · obtain ⟨rfl, -⟩ := Prod.mk.inj (Except.ok.inj h)
        rfl
      · cases h
    · split at h
      · obtain ⟨rfl, -⟩ := Prod.mk.inj (Except.ok.inj h)
        rfl
      · split at h
        · obtain ⟨rfl, -⟩ := Prod.mk.inj (Except.ok.inj h)
          rfl
        · cases h

theorem isShort_of_tokensFrom {pos : Nat} {cs : List Char} {ts : List Token} (h : tokensFrom pos cs = .ok ts) :
    ∀ t ∈ ts, t.lexeme.isShort = true := by
  induction pos, cs using tokensFrom.induct generalizing ts with
  | case1 pos =>
    obtain rfl : [] = ts := by simpa [tokensFrom_nil] using h
    simp
  | case2 pos c rest hblank ih =>
    rw [tokensFrom_cons, if_pos hblank] at h
    exact ih h
  | case3 pos c rest hblank cause hlex =>
    rw [tokensFrom_cons, if_neg hblank, hlex] at h
    cases h
  | case4 pos c rest hblank l n hlex failure hmore ih =>
    rw [tokensFrom_cons, if_neg hblank, hlex] at h
    dsimp only at h
    rw [hmore] at h
    cases h
  | case5 pos c rest hblank l n hlex more hmore ih =>
    rw [tokensFrom_cons, if_neg hblank, hlex] at h
    dsimp only at h
    rw [hmore] at h
    obtain rfl := Except.ok.inj h
    exact List.forall_mem_cons.mpr ⟨isShort_of_lexeme hlex, ih hmore⟩

theorem isShort_of_scan {source : String} {ts : List Token} (h : scan source = .ok ts) :
    ∀ t ∈ ts, t.lexeme.isShort = true := by
  unfold scan at h
  split at h
  · next hts =>
    obtain rfl := Except.ok.inj h
    exact isShort_of_tokensFrom hts
  · cases h

/-! ## Trees -/

namespace Expr

/-- A node as readers make it. -/
def isWritten : Expr → Bool
  | literal _ (.number n) => n.text.isOk
  | literal _ .null | literal _ (.bool _) | literal _ (.text _) => true
  | literal _ _ | prefixed _ (.other _) _ | binary _ (.other _) _ _ | logical _ (.other _) _ _ | unknown _ => false
  | _ => true

/-- A tree all of whose nodes are as readers make them. -/
def Written (e : Expr) : Prop := ∀ n ∈ e.nodes, n.isWritten = true

theorem written_of_children {e : Expr} (he : e.isWritten = true) (h : ∀ part ∈ e.children, part.Written) :
    e.Written := by
  intro n hn
  rw [nodes_eq] at hn
  rcases List.mem_cons.mp hn with rfl | hn
  · exact he
  · obtain ⟨part, hp, hn⟩ := List.mem_flatMap.mp hn
    exact h part hp n hn

theorem Written.part {part e : Expr} (h : e.Written) (hp : part ∈ e.children) : part.Written :=
  fun n hn => h n (nodes_subset_of_mem_children hp hn)

theorem Written.displays {e : Expr} (h : e.Written) : e.Displays := by
  intro pos v hv
  have hwritten := h _ hv
  cases v with
  | number n =>
    obtain ⟨text, ht⟩ := exists_ok_of_isOk hwritten
    exact ⟨text, ht⟩
  | null | bool b | text s => exact ⟨_, rfl⟩
  | _ => cases hwritten

/-- Every part of a tree that was read has a source text. -/
theorem Written.source {e n : Expr} (h : e.Written) (hn : n ∈ e.nodes) : ∃ text, n.source = .ok text := by
  rw [source_eq]
  exact Displays.rendered n fun pos v hv => h.displays pos v (nodes_subset_of_mem hn hv)

end Expr

theorem written_of_value? {t : Token} {e : Expr} (ht : t.lexeme.isShort = true) (h : t.value? = some e) :
    e.Written := by
  obtain ⟨l, pos⟩ := t
  suffices hnode : e.isWritten = true ∧ e.children = [] from
    Expr.written_of_children hnode.1 (by rw [hnode.2]; exact List.forall_mem_nil _)
  unfold Token.value? at h
  split at h
  · next n hn =>
    obtain rfl := Option.some.inj h
    dsimp only at hn
    subst hn
    exact ⟨ht, rfl⟩
  · obtain rfl := Option.some.inj h
    exact ⟨rfl, rfl⟩
  · obtain rfl := Option.some.inj h
    exact ⟨rfl, rfl⟩
  · obtain rfl := Option.some.inj h
    exact ⟨rfl, rfl⟩
  · obtain rfl := Option.some.inj h
    exact ⟨rfl, rfl⟩
  · split at h
    · cases h
    · obtain rfl := Option.some.inj h
      exact ⟨rfl, rfl⟩
  · cases h

/-- What a token of a level makes of two sides has one of the operators that have a spelling. -/
theorem isWritten_join {t : Token} {l : Level} (h : t.level? = some l) (left right : Expr) :
    (t.join left right).isWritten = true ∧ (t.join left right).children = [left, right] := by
  obtain ⟨lexeme, pos⟩ := t
  cases lexeme with
  | op o => cases o <;> first | exact ⟨rfl, rfl⟩ | cases h
  | name s =>
    by_cases hin : s = "in"
    · subst hin; exact ⟨rfl, rfl⟩
    by_cases hand : s = "and"
    · subst hand; exact ⟨rfl, rfl⟩
    by_cases hor : s = "or"
    · subst hor; exact ⟨rfl, rfl⟩
    simp [Token.level?, Lexeme.connective?, hin, hand, hor] at h
  | _ => cases h

theorem isWritten_prefixed {t : Token} {op : PrefixOp} (h : prefixOp? t = some op) (pos : Nat) (e : Expr) :
    (Expr.prefixed pos op e).isWritten = true := by
  unfold prefixOp? at h
  split at h <;> first | cases h; rfl | cases h

/-- The strata of what stands between brackets. -/
def Stratum.isItems : Stratum → Bool
  | list | tail => true
  | _ => false

theorem isItems_tighter (l : Level) : l.tighter.isItems = false := by cases l <;> rfl

/-- The trees of a phrase are as readers make them when its numbers can be written. -/
theorem Derives.written {S : Stratum} {p : Phrase} (h : Derives S p) (ht : ∀ t ∈ p.tokens, t.lexeme.isShort = true) :
    (S.isItems = false → p.tree.Written) ∧ ∀ e ∈ p.trees, e.Written := by
  induction h with
  | value hv =>
    obtain ⟨e, he⟩ := Option.isSome_iff_exists.mp hv
    refine ⟨fun _ => ?_, List.forall_mem_nil _⟩
    rw [Phrase.tree, he]
    exact written_of_value? (ht _ List.mem_cons_self) he
  | group _ _ _ ih =>
    have hbody := ih fun t hm => ht t (by simp [Phrase.tokens, hm])
    exact ⟨fun _ => hbody.1 rfl, List.forall_mem_nil _⟩
  | array _ _ _ ih =>
    have hitems := ih fun t hm => ht t (by simp [Phrase.tokens, hm])
    exact ⟨fun _ => Expr.written_of_children rfl hitems.2, List.forall_mem_nil _⟩
  | primary _ ih | access _ ih | binary _ ih => exact ⟨fun _ => (ih ht).1 rfl, (ih ht).2⟩
  | @tighter l _ _ ih =>
    exact ⟨fun _ => (ih ht).1 (isItems_tighter l), (ih ht).2⟩
  | member _ _ ih =>
    have hobj := ih fun t hm => ht t (by simp [Phrase.tokens, hm])
    refine ⟨fun _ => Expr.written_of_children rfl ?_, List.forall_mem_nil _⟩
    simpa [Phrase.tree, Expr.children] using hobj.1 rfl
  | index _ _ _ _ ihobj ihkey =>
    have hobj := ihobj fun t hm => ht t (by simp [Phrase.tokens, hm])
    have hkey := ihkey fun t hm => ht t (by simp [Phrase.tokens, hm])
    refine ⟨fun _ => Expr.written_of_children rfl ?_, List.forall_mem_nil _⟩
    simpa [Phrase.tree, Expr.children] using ⟨hobj.1 rfl, hkey.1 rfl⟩
  | call _ _ _ _ _ _ ihargs =>
    have hargs := ihargs fun t hm => ht t (by simp [Phrase.tokens, hm])
    exact ⟨fun _ => Expr.written_of_children rfl hargs.2, List.forall_mem_nil _⟩
  | prefixed hop _ ih =>
    have hoperand := ih fun t hm => ht t (by simp [Phrase.tokens, hm])
    obtain ⟨op, hop⟩ := Option.isSome_iff_exists.mp hop
    refine ⟨fun _ => ?_, List.forall_mem_nil _⟩
    rw [Phrase.tree, hop]
    refine Expr.written_of_children (isWritten_prefixed hop _ _) ?_
    simpa [Phrase.tree, Expr.children] using hoperand.1 rfl
  | @infixed l left right op _ hop hright ihleft ihright =>
    have hl := ihleft fun t hm => ht t (by simp [Phrase.tokens, hm])
    have hr := ihright fun t hm => ht t (by simp [Phrase.tokens, hm])
    refine ⟨fun _ => ?_, List.forall_mem_nil _⟩
    rw [Phrase.tree]
    obtain ⟨hnode, hchildren⟩ := isWritten_join hop left.tree right.tree
    refine Expr.written_of_children hnode ?_
    rw [hchildren]
    simpa using ⟨hl.1 rfl, hr.1 (isItems_tighter l)⟩
  | conditional _ _ _ _ _ ihtest ihyes ihno =>
    have htest := ihtest fun t hm => ht t (by simp [Phrase.tokens, hm])
    have hyes := ihyes fun t hm => ht t (by simp [Phrase.tokens, hm])
    have hno := ihno fun t hm => ht t (by simp [Phrase.tokens, hm])
    refine ⟨fun _ => Expr.written_of_children rfl ?_, List.forall_mem_nil _⟩
    simpa [Phrase.tree, Expr.children] using ⟨htest.1 rfl, hyes.1 rfl, hno.1 rfl⟩
  | noItems | noFurther => exact ⟨fun h => absurd h.symm Bool.false_ne_true, List.forall_mem_nil _⟩
  | items _ _ ihfirst ihrest =>
    have hfirst := ihfirst fun t hm => ht t (by simp [Phrase.tokens, hm])
    have hrest := ihrest fun t hm => ht t (by simp [Phrase.tokens, hm])
    exact ⟨fun h => absurd h.symm Bool.false_ne_true, List.forall_mem_cons.mpr ⟨hfirst.1 rfl, hrest.2⟩⟩
  | further _ _ _ ihnext ihrest =>
    have hnext := ihnext fun t hm => ht t (by simp [Phrase.tokens, hm])
    have hrest := ihrest fun t hm => ht t (by simp [Phrase.tokens, hm])
    exact ⟨fun h => absurd h.symm Bool.false_ne_true, List.forall_mem_cons.mpr ⟨hnext.1 rfl, hrest.2⟩⟩

theorem written_of_parse {source : String} {e : Expr} (h : parse source = .ok e) : e.Written := by
  cases hscan : scan source with
  | error err => simp [parse, hscan, bind, Except.bind] at h
  | ok ts =>
    obtain ⟨p, hp, rfl⟩ := (parse_eq_ok_iff hscan).mp h
    exact (hp.derives.written (hp.tokens ▸ isShort_of_scan hscan)).1 rfl

end CaptionAnimation.Expression
