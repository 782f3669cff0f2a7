import CaptionAnimation.Proofs.Except
import CaptionAnimation.Proofs.Expression.Tables

/-! # What is read derives from the grammar

When a reader returns a tree and a rest, a phrase of its stratum stands before the rest and has that tree. Each
combinator carries this over from its parts; the loops carry it along a phrase that grows to the left. -/
namespace CaptionAnimation.Expression

variable {l : Level} {n : Nat} {nested item branch operand : Reader Expr} {e : Expr} {es : List Expr}
  {ts rest : List Token}

/-- A phrase of the stratum stands before `rest`, opens fewer than `n` levels and has the tree. -/
def Reads (S : Stratum) (n : Nat) (ts : List Token) (e : Expr) (rest : List Token) : Prop :=
  ∃ p, Derives S p ∧ p.nesting < n ∧ p.tokens ++ rest = ts ∧ p.tree = e

/-- The same for the items of a list. -/
def ReadsItems (S : Stratum) (n : Nat) (ts : List Token) (es : List Expr) (rest : List Token) : Prop :=
  ∃ p, Derives S p ∧ p.nesting < n ∧ p.tokens ++ rest = ts ∧ p.trees = es

def Sound (S : Stratum) (n : Nat) (reader : Reader Expr) : Prop :=
  ∀ ⦃ts e rest⦄, reader ts = .ok (e, rest) → Reads S n ts e rest

/-! ## Lists of items -/

theorem moreItems_sound (hitem : Sound .whole n item) (rounds : List Token)
    (h : moreItems item rounds ts = .ok (es, rest)) : ReadsItems .tail (n + 1) ts es rest := by
  induction rounds generalizing ts es with
  | nil =>
    obtain ⟨rfl, rfl⟩ : [] = es ∧ ts = rest := by simpa [moreItems] using h
    exact ⟨.empty, .noFurther, Nat.succ_pos n, rfl, rfl⟩
  | cons round rounds ih =>
    cases ts with
    | nil =>
      obtain ⟨rfl, rfl⟩ : [] = es ∧ [] = rest := by simpa [moreItems] using h
      exact ⟨.empty, .noFurther, Nat.succ_pos n, rfl, rfl⟩
    | cons t ts =>
      unfold moreItems at h
      split at h
      · next hcomma =>
        obtain ⟨⟨e, after⟩, he, h⟩ := bind_eq_ok_iff.mp h
        obtain ⟨⟨es', rest'⟩, hes, h⟩ := bind_eq_ok_iff.mp h
        obtain ⟨rfl, rfl⟩ : e :: es' = es ∧ rest' = rest := by simpa [pure, Except.pure] using h
        obtain ⟨p, hp, hpn, rfl, rfl⟩ := hitem he
        obtain ⟨q, hq, hqn, rfl, rfl⟩ := ih hes
        refine ⟨.further t p q, .further (Token.isOp_iff.mp hcomma) hp hq, ?_, ?_, rfl⟩
        · simp only [Phrase.nesting]
          omega
        · simp [Phrase.tokens]
      · obtain ⟨rfl, rfl⟩ : [] = es ∧ t :: ts = rest := by simpa using h
        exact ⟨.empty, .noFurther, Nat.succ_pos n, rfl, rfl⟩

theorem itemsBefore_sound (hitem : Sound .whole n item) {close : Operator}
    (h : itemsBefore close item ts = .ok (es, rest)) : ReadsItems .list (n + 1) ts es rest := by
  unfold itemsBefore at h
  split at h
  · obtain ⟨rfl, rfl⟩ : [] = es ∧ ts = rest := by simpa using h
    exact ⟨.empty, .noItems, Nat.succ_pos n, rfl, rfl⟩
  · obtain ⟨⟨first, before⟩, hfirst, h⟩ := bind_eq_ok_iff.mp h
    obtain ⟨⟨more, after⟩, hmore, h⟩ := bind_eq_ok_iff.mp h
    obtain ⟨rfl, rfl⟩ : first :: more = es ∧ after = rest := by simpa [pure, Except.pure] using h
    obtain ⟨p, hp, hpn, rfl, rfl⟩ := hitem hfirst
    obtain ⟨q, hq, hqn, rfl, rfl⟩ := moreItems_sound hitem before hmore
    refine ⟨.items p q, .items hp hq, ?_, ?_, rfl⟩
    · simp only [Phrase.nesting]
      omega
    · simp [Phrase.tokens]

/-- The items and the bracket that closes them. -/
theorem itemsUntil_sound (hitem : Sound .whole n item) {close : Operator}
    (h : itemsUntil close item ts = .ok (es, rest)) :
    ∃ c : Token, c.lexeme = .op close ∧ ReadsItems .list (n + 1) ts es (c :: rest) := by
  obtain ⟨⟨items, before⟩, hitems, h⟩ := bind_eq_ok_iff.mp h
  obtain ⟨⟨⟨⟩, after⟩, hclose, h⟩ := bind_eq_ok_iff.mp h
  obtain ⟨rfl, rfl⟩ : items = es ∧ after = rest := by simpa [pure, Except.pure] using h
  obtain ⟨c, hc, rfl⟩ := expectOp_eq_ok.mp hclose
  exact ⟨c, hc, itemsBefore_sound hitem hitems⟩

/-! ## Primaries, accesses and operands -/

theorem primary_sound (hnested : Sound .whole n nested) : Sound .primary (n + 1) (primary nested) := by
  intro ts e rest h
  cases ts with
  | nil => cases h
  | cons t ts =>
    rw [primary_eq] at h
    split at h
    · next v hv =>
      obtain ⟨rfl, rfl⟩ : v = e ∧ ts = rest := by simpa using h
      exact ⟨.value t, .value (by simp [hv]), Nat.succ_pos n, rfl, by simp [Phrase.tree, hv]⟩
    · split at h
      · next hopen =>
        obtain ⟨⟨e', after⟩, he, h⟩ := bind_eq_ok_iff.mp h
        obtain ⟨⟨⟨⟩, rest'⟩, hclose, h⟩ := bind_eq_ok_iff.mp h
        obtain ⟨rfl, rfl⟩ : e' = e ∧ rest' = rest := by simpa [pure, Except.pure] using h
        obtain ⟨c, hc, rfl⟩ := expectOp_eq_ok.mp hclose
        obtain ⟨p, hp, hpn, rfl, rfl⟩ := hnested he
        exact ⟨.group t p c, .group hopen hp hc, Nat.succ_lt_succ hpn, by simp [Phrase.tokens], rfl⟩
      · next hopen =>
        obtain ⟨⟨items, rest'⟩, hitems, h⟩ := bind_eq_ok_iff.mp h
        obtain ⟨rfl, rfl⟩ : .array t.pos items = e ∧ rest' = rest := by simpa [pure, Except.pure] using h
        obtain ⟨c, hc, p, hp, hpn, rfl, rfl⟩ := itemsUntil_sound hnested hitems
        exact ⟨.array t p c, .array hopen hp hc, hpn, by simp [Phrase.tokens], rfl⟩
      · cases h
      · cases h

/-- The loop keeps what has been read so far an access phrase. -/
theorem postfixRest_sound (hnested : Sound .whole n nested) (rounds : List Token) {p : Phrase}
    (hp : Derives .access p) (hpn : p.nesting < n + 1)
    (h : postfixRest nested rounds p.tree ts = .ok (e, rest)) : Reads .access (n + 1) (p.tokens ++ ts) e rest := by
  induction rounds generalizing p ts with
  | nil =>
    obtain ⟨rfl, rfl⟩ : p.tree = e ∧ ts = rest := by simpa [postfixRest] using h
    exact ⟨p, hp, hpn, rfl, rfl⟩
  | cons round rounds ih =>
    cases ts with
    | nil =>
      obtain ⟨rfl, rfl⟩ : p.tree = e ∧ [] = rest := by simpa [postfixRest] using h
      exact ⟨p, hp, hpn, rfl, rfl⟩
    | cons t ts =>
      unfold postfixRest at h
      split at h
      case h_1 x hdot | h_2 x hdot =>
        split at h
        · next name pos after =>
          have hmember : Derives .access (.member p t name pos) := .member hp (by simp [hdot])
          have hgrown := ih hmember hpn h
          simpa [Phrase.tokens] using hgrown
        · cases h
      case h_3 x hopen =>
        obtain ⟨⟨key, before⟩, hkey, h⟩ := bind_eq_ok_iff.mp h
        obtain ⟨⟨⟨⟩, after⟩, hclose, hgo⟩ := bind_eq_ok_iff.mp h
        obtain ⟨c, hc, rfl⟩ := expectOp_eq_ok.mp hclose
        obtain ⟨q, hq, hqn, rfl, rfl⟩ := hnested hkey
        have hgrown := ih (.index hp hopen hq hc) (by simp only [Phrase.nesting]; omega) hgo
        simpa [Phrase.tokens] using hgrown
      case h_4 x hopen =>
        split at h
        · cases h
        · next name hname =>
          obtain ⟨⟨args, after⟩, hargs, h⟩ := bind_eq_ok_iff.mp h
          obtain ⟨c, hc, q, hq, hqn, rfl, rfl⟩ := itemsUntil_sound hnested hargs
          have hcall : Derives .access (.call p t q c) := .call hp (by simp [hname]) hopen hq hc
          have hgrown := ih hcall (by simp only [Phrase.nesting]; omega) (by simpa [Phrase.tree, hname] using h)
          simpa [Phrase.tokens] using hgrown
      case h_5 =>
        obtain ⟨rfl, rfl⟩ : p.tree = e ∧ t :: ts = rest := by simpa using h
        exact ⟨p, hp, hpn, rfl, rfl⟩

theorem postfixExpr_sound (hnested : Sound .whole n nested) : Sound .access (n + 1) (postfixExpr nested) := by
  intro ts e rest h
  obtain ⟨⟨base, after⟩, hbase, h⟩ := bind_eq_ok_iff.mp h
  obtain ⟨p, hp, hpn, rfl, rfl⟩ := primary_sound hnested hbase
  exact postfixRest_sound hnested after (.primary hp) hpn h

theorem prefixExpr_sound {deeper : Option (Reader Expr)} (hdeeper : ∀ r ∈ deeper, Sound .operand n r)
    (hnested : Sound .whole n nested) : Sound .operand (n + 1) (prefixExpr deeper nested) := by
  have haccess : ∀ {ts e rest}, postfixExpr nested ts = .ok (e, rest) → Reads .operand (n + 1) ts e rest := by
    intro ts e rest h
    obtain ⟨p, hp, hparts⟩ := postfixExpr_sound hnested h
    exact ⟨p, .access hp, hparts⟩
  intro ts e rest h
  cases ts with
  | nil => exact haccess h
  | cons t ts =>
    cases hop : prefixOp? t with
    | none => exact haccess (by simpa only [prefixExpr, hop] using h)
    | some op =>
      cases deeper with
      | none => simp [prefixExpr, hop] at h
      | some r =>
        simp only [prefixExpr, hop] at h
        obtain ⟨⟨operand, after⟩, hoperand, h⟩ := bind_eq_ok_iff.mp h
        obtain ⟨rfl, rfl⟩ : .prefixed t.pos op operand = e ∧ after = rest := by simpa [pure, Except.pure] using h
        obtain ⟨p, hp, hpn, rfl, rfl⟩ := hdeeper r rfl hoperand
        exact ⟨.prefixed t p, .prefixed (by simp [hop]) hp, Nat.succ_lt_succ hpn, rfl, by simp [Phrase.tree, hop]⟩

/-! ## Infix levels and conditionals -/

/-- The loop keeps what has been read so far a phrase of the level. -/
theorem chainRest_sound (hoperand : Sound l.tighter n operand) (rounds : List Token) {p : Phrase}
    (hp : Derives (.level l) p) (hpn : p.nesting < n)
    (h : chainRest l.joint? operand rounds p.tree ts = .ok (e, rest)) : Reads (.level l) n (p.tokens ++ ts) e rest := by
  induction rounds generalizing p ts with
  | nil =>
    obtain ⟨rfl, rfl⟩ : p.tree = e ∧ ts = rest := by simpa [chainRest] using h
    exact ⟨p, hp, hpn, rfl, rfl⟩
  | cons round rounds ih =>
    cases ts with
    | nil =>
      obtain ⟨rfl, rfl⟩ : p.tree = e ∧ [] = rest := by simpa [chainRest] using h
      exact ⟨p, hp, hpn, rfl, rfl⟩
    | cons t ts =>
      unfold chainRest at h
      split at h
      · obtain ⟨rfl, rfl⟩ : p.tree = e ∧ t :: ts = rest := by simpa using h
        exact ⟨p, hp, hpn, rfl, rfl⟩
      · next joint hjoint =>
        obtain ⟨hl, rfl⟩ := Level.joint?_eq_some hjoint
        obtain ⟨⟨right, after⟩, hright, h⟩ := bind_eq_ok_iff.mp h
        obtain ⟨q, hq, hqn, rfl, rfl⟩ := hoperand hright
        have hgrown := ih (.infixed hp hl hq) (by simp only [Phrase.nesting]; omega) h
        simpa [Phrase.tokens] using hgrown

theorem chain_sound (hoperand : Sound l.tighter n operand) : Sound (.level l) n (chain operand l.joint?) := by
  intro ts e rest h
  obtain ⟨⟨left, after⟩, hleft, h⟩ := bind_eq_ok_iff.mp h
  obtain ⟨p, hp, hpn, rfl, rfl⟩ := hoperand hleft
  exact chainRest_sound hoperand after (.tighter hp) hpn h

theorem binaryExpr_sound (hoperand : Sound .operand n operand) :
    Sound (.level .coalescence) n (binaryExpr operand) :=
  binaryExpr_climbs (P := (Sound · n ·)) hoperand fun _ _ => chain_sound

theorem conditionalExpr_sound (hbranch : Sound .whole n branch) (hoperand : Sound .operand (n + 1) operand) :
    Sound .whole (n + 1) (conditionalExpr branch operand) := by
  intro ts e rest h
  obtain ⟨⟨test, after⟩, htest, h⟩ := bind_eq_ok_iff.mp h
  obtain ⟨p, hp, hpn, rfl, rfl⟩ := binaryExpr_sound hoperand htest
  cases after with
  | nil =>
    obtain ⟨rfl, rfl⟩ : p.tree = e ∧ [] = rest := by simpa [pure, Except.pure] using h
    exact ⟨p, .binary hp, hpn, rfl, rfl⟩
  | cons t more =>
    dsimp only at h
    split at h
    · next hquestion =>
      obtain ⟨⟨yes, after⟩, hyes, h⟩ := bind_eq_ok_iff.mp h
      obtain ⟨⟨⟨⟩, after'⟩, hcolon, h⟩ := bind_eq_ok_iff.mp h
      obtain ⟨⟨no, rest'⟩, hno, h⟩ := bind_eq_ok_iff.mp h
      obtain ⟨rfl, rfl⟩ : .conditional t.pos p.tree yes no = e ∧ rest' = rest := by
        simpa [pure, Except.pure] using h
      obtain ⟨c, hc, rfl⟩ := expectOp_eq_ok.mp hcolon
      obtain ⟨q, hq, hqn, rfl, rfl⟩ := hbranch hyes
      obtain ⟨r, hr, hrn, rfl, rfl⟩ := hbranch hno
      refine ⟨.conditional p t q c r, .conditional hp (Token.isOp_iff.mp hquestion) hq hc hr, ?_, ?_, rfl⟩
      · simp only [Phrase.nesting]
        omega
      · simp [Phrase.tokens]
    · obtain ⟨rfl, rfl⟩ : p.tree = e ∧ t :: more = rest := by simpa [pure, Except.pure] using h
      exact ⟨p, .binary hp, hpn, rfl, rfl⟩

/-- With `n` levels left, a whole expression opens fewer than `n` more, and an operand at most `n`. -/
theorem readers_sound (n : Nat) : Sound .whole n (readers n).1 ∧ Sound .operand (n + 1) (readers n).2 := by
  refine readers_deepen ?_ ?_ ?_ n
  · intro ts e rest h
    cases h
  · intro n branch operand hbranch hoperand
    exact conditionalExpr_sound hbranch hoperand
  · intro n deeper whole hdeeper _ hwhole
    exact prefixExpr_sound hdeeper hwhole

end CaptionAnimation.Expression
