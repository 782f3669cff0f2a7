import CaptionAnimation.Expression.Parser
import CaptionAnimation.Proofs.Expression.Lexing
import CaptionAnimation.Proofs.Expression.Rendering
import CaptionAnimation.Proofs.Except

/-! # The tokens of a written tree

Which trees can be written so that they can be read again, and the lexemes of their text. Each token of the text ends
where the next begins, whatever the tree. -/
namespace CaptionAnimation.Expression

open Text (isAsciiDigit isBlank)

/-! ## Operators as lexemes -/

def PrefixOp.lexeme : PrefixOp → Lexeme
  | not => .op .not
  | negate => .op .minus
  | plus => .op .plus
  | other s => .name s

def BinaryOp.lexeme : BinaryOp → Lexeme
  | equal => .op .equal
  | notEqual => .op .notEqual
  | less => .op .less
  | lessEqual => .op .lessEqual
  | greater => .op .greater
  | greaterEqual => .op .greaterEqual
  | within => .name "in"
  | add => .op .plus
  | subtract => .op .minus
  | multiply => .op .times
  | divide => .op .divide
  | remainder => .op .remainder
  | other s => .name s

def LogicalOp.lexeme : LogicalOp → Lexeme
  | and => .op .and
  | or => .op .or
  | coalesce => .op .coalesce
  | other s => .name s

/-! ## Trees that can be read again -/

/-- Names that are read as constants or operators. -/
def reservedNames : List String := ["true", "false", "null"] ++ operatorNames

/-- A constant whose text is read as that constant. -/
def rendersValue : Value → Prop
  | .null | .bool _ | .text _ => True
  | .number (.int n) => 0 ≤ n ∧ n < 10 ^ maxNumberLength
  | .number (.double q) => IsNumber (Notation.float q.value) (.double q)
  | _ => False

namespace Expr

def isPrefixed : Expr → Bool
  | prefixed _ _ _ => true
  | _ => false

/-- Whether the text of the tree ends with an integer. -/
def endsInteger : Expr → Bool
  | literal _ (.number (.int _)) => true
  | prefixed _ _ operand => operand.endsInteger
  | _ => false

/-- A node that is written as it can be read. -/
def Renders : Expr → Prop
  | literal _ value => rendersValue value
  | name _ s | call _ s _ => isName s = true ∧ s ∉ reservedNames
  | array _ _ | conditional _ _ _ _ => True
  -- a prefix operator would take the access with its operand, and an integer would take the point
  | member _ obj s guarded => isName s = true ∧ obj.isPrefixed = false ∧ (guarded = false → obj.endsInteger = false)
  -- a guarded index is written as a plain one
  | index _ obj _ guarded => obj.isPrefixed = false ∧ guarded = false
  | prefixed _ op _ => ∀ s, op ≠ .other s
  | binary _ op _ _ => ∀ s, op ≠ .other s
  | logical _ op _ _ => ∀ s, op ≠ .other s
  | unknown _ => False

/-- A tree all of whose nodes are written as they can be read. -/
def Renderable (e : Expr) : Prop := ∀ n ∈ e.nodes, n.Renders

theorem Renderable.part {part e : Expr} (h : e.Renderable) (hp : part ∈ e.children) : part.Renderable :=
  fun n hn => h n (nodes_subset_of_mem_children hp hn)

theorem Renderable.self {e : Expr} (h : e.Renderable) : e.Renders := h e e.mem_nodes_self

mutual

/-- The lexemes of the text of a tree. -/
def lexemes : Expr → List Lexeme
  | literal _ .null => [.name "null"]
  | literal _ (.bool b) => [.name (if b then "true" else "false")]
  | literal _ (.text s) => [.text s]
  | literal _ (.number n) => [.number n]
  | literal _ _ | unknown _ => []
  | name _ s => [.name s]
  | array _ items => .op .openBracket :: (itemLexemes items ++ [.op .closeBracket])
  | member _ obj s guarded => lexemes obj ++ [.op (if guarded then .guardedDot else .dot), .name s]
  | index _ obj key _ => lexemes obj ++ .op .openBracket :: (lexemes key ++ [.op .closeBracket])
  | call _ s args => .name s :: .op .openParen :: (itemLexemes args ++ [.op .closeParen])
  | prefixed _ op operand => op.lexeme :: lexemes operand
  | binary _ op left right =>
    .op .openParen :: (lexemes left ++ op.lexeme :: (lexemes right ++ [.op .closeParen]))
  | logical _ op left right =>
    .op .openParen :: (lexemes left ++ op.lexeme :: (lexemes right ++ [.op .closeParen]))
  | conditional _ test yes no =>
    .op .openParen ::
      (lexemes test ++ .op .question :: (lexemes yes ++ .op .colon :: (lexemes no ++ [.op .closeParen])))

/-- The lexemes of items between brackets. -/
def itemLexemes : List Expr → List Lexeme
  | [] => []
  | e :: es => lexemes e ++ furtherLexemes es

/-- The lexemes of further items, each after a comma. -/
def furtherLexemes : List Expr → List Lexeme
  | [] => []
  | e :: es => .op .comma :: (lexemes e ++ furtherLexemes es)

end

end Expr

/-! ## What follows -/

/-- The characters that follow the text of a tree. -/
def followers : List Char := [' ', ',', ')', ']', '[', '?', '.']

/-- No follower goes on a name or a number. -/
theorem ends_of_follower {c : Char} (hc : c ∈ followers) : isNamePart c = false ∧ continuesNumber c = false := by
  simp only [followers, List.mem_cons, List.not_mem_nil, or_false] at hc
  rcases hc with rfl | rfl | rfl | rfl | rfl | rfl | rfl <;> decide

/-- What may follow the text of a tree: no point follows an integer. -/
structure Follows (e : Expr) (rest : List Char) : Prop where
  follower : ∀ c ∈ rest.head?, c ∈ followers
  point : rest.head? = some '.' → e.endsInteger = false

theorem Follows.cons {e : Expr} {c : Char} {rest : List Char} (hc : c ∈ followers) (hpoint : c ≠ '.') :
    Follows e (c :: rest) :=
  ⟨fun d hd => by obtain rfl : c = d := by simpa using hd
                  exact hc,
   fun h => absurd (by simpa using h) hpoint⟩

variable {rest : List Char} {ls : List Lexeme}

theorem Scans.keyword {s : String} (h : Scans rest ls) (hs : isName s = true) (hrest : ∀ c ∈ rest.head?, c ∈ followers) :
    Scans (s.toList ++ rest) (.name s :: ls) :=
  h.name hs fun c hc => (ends_of_follower (hrest c hc)).1

theorem Scans.space (h : Scans rest ls) : Scans (' ' :: rest) ls := h.blank (by decide)

theorem endsBefore_space (o : Operator) : ∀ c ∈ (' ' :: rest).head?, o.endsBefore c = true := by
  intro c hc
  obtain rfl : ' ' = c := by simpa using hc
  cases o <;> decide

theorem Scans.binaryOp {op : BinaryOp} (h : Scans rest ls) (hop : ∀ s, op ≠ .other s) :
    Scans (op.spelling.toList ++ ' ' :: rest) (op.lexeme :: ls) := by
  cases op with
  | equal => exact h.space.op .equal (endsBefore_space _)
  | notEqual => exact h.space.op .notEqual (endsBefore_space _)
  | less => exact h.space.op .less (endsBefore_space _)
  | lessEqual => exact h.space.op .lessEqual (endsBefore_space _)
  | greater => exact h.space.op .greater (endsBefore_space _)
  | greaterEqual => exact h.space.op .greaterEqual (endsBefore_space _)
  | within => exact h.space.keyword (s := "in") (by decide) (by simp [followers])
  | add => exact h.space.op .plus (endsBefore_space _)
  | subtract => exact h.space.op .minus (endsBefore_space _)
  | multiply => exact h.space.op .times (endsBefore_space _)
  | divide => exact h.space.op .divide (endsBefore_space _)
  | remainder => exact h.space.op .remainder (endsBefore_space _)
  | other s => exact absurd rfl (hop s)

theorem Scans.logicalOp {op : LogicalOp} (h : Scans rest ls) (hop : ∀ s, op ≠ .other s) :
    Scans (op.spelling.toList ++ ' ' :: rest) (op.lexeme :: ls) := by
  cases op with
  | and => exact h.space.op .and (endsBefore_space _)
  | or => exact h.space.op .or (endsBefore_space _)
  | coalesce => exact h.space.op .coalesce (endsBefore_space _)
  | other s => exact absurd rfl (hop s)

theorem Scans.prefixOp {op : PrefixOp} (h : Scans rest ls) (hop : ∀ s, op ≠ .other s)
    (hrest : ∀ c ∈ rest.head?, c ≠ '=') : Scans (op.spelling.toList ++ rest) (op.lexeme :: ls) := by
  cases op with
  | not => exact h.op .not fun c hc => by simpa [Operator.endsBefore] using (hrest c hc).symm
  | negate => exact h.op .minus fun _ _ => rfl
  | plus => exact h.op .plus fun _ _ => rfl
  | other s => exact absurd rfl (hop s)

/-- The text of a number is one token, the number itself. -/
theorem isNumber_of_literalSource {n : Number} {text : String} (hn : rendersValue (.number n))
    (ht : literalSource (.number n) = .ok text) : IsNumber text n := by
  cases n with
  | double q =>
    obtain rfl : Notation.float q.value = text := Except.ok.inj ht
    exact hn
  | int i =>
    obtain ⟨hpositive, hbound⟩ := hn
    obtain ⟨k, rfl⟩ := Int.eq_ofNat_of_zero_le hpositive
    have htext : k.repr = text := by
      change Number.intText k = .ok text at ht
      unfold Number.intText at ht
      generalize tenTo Number.digitLimit = limit at ht
      split at ht
      · exact Except.ok.inj ht
      · cases ht
    rw [← htext]
    exact isNumber_repr (by exact_mod_cast hbound)

/-- A constant is read as itself. -/
theorem Scans.value {pos : Nat} {v : Value} {text : String} (h : Scans rest ls) (hv : rendersValue v)
    (ht : literalSource v = .ok text) (hf : Follows (.literal pos v) rest) :
    Scans (text.toList ++ rest) (Expr.lexemes (.literal pos v) ++ ls) := by
  cases v with
  | null =>
    obtain rfl : "null" = text := Except.ok.inj ht
    exact h.keyword (by decide) hf.follower
  | bool b =>
    obtain rfl : (if b then "true" else "false") = text := Except.ok.inj ht
    exact h.keyword (by cases b <;> decide) hf.follower
  | text s =>
    obtain rfl : quotedSource s = text := Except.ok.inj ht
    have hs := h.text (s := s)
    simpa [quotedSource, escaped, Expr.lexemes] using hs
  | number n =>
    refine h.number (isNumber_of_literalSource hv ht)
      (fun c hc => (ends_of_follower (hf.follower c hc)).2) fun hdot => ?_
    cases n with
    | double q => exact ⟨q, rfl⟩
    | int i => exact absurd (hf.point hdot) (by simp [Expr.endsInteger])
  | _ => exact hv.elim

/-- An operator of one character. -/
theorem Scans.mark (h : Scans rest ls) (o : Operator) {c : Char} (ho : o.spelling.toList = [c])
    (hrest : ∀ d ∈ rest.head?, o.endsBefore d = true) : Scans (c :: rest) (.op o :: ls) := by
  have hop := h.op o hrest
  rwa [ho] at hop

theorem exists_of_isName {s : String} (hs : isName s = true) : ∃ c cs, s.toList = c :: cs ∧ isNameStart c = true := by
  unfold isName at hs
  split at hs
  · cases hs
  · next c cs hcs => exact ⟨c, cs, hcs, (Bool.and_eq_true_iff.mp hs).1⟩

/-- Points stand before names. -/
theorem endsBefore_name {o : Operator} {s : String} (hs : isName s = true) (ho : o = .dot ∨ o = .guardedDot) :
    ∀ c ∈ (s.toList ++ rest).head?, o.endsBefore c = true := by
  obtain ⟨c, cs, hcs, hc⟩ := exists_of_isName hs
  rw [hcs]
  intro d hd
  obtain rfl : c = d := by simpa using hd
  rcases ho with rfl | rfl <;> simp [Operator.endsBefore, isAsciiDigit_of_isNameStart hc]

/-- The texts of further items, each after a comma and a blank. -/
def furtherText (texts : List String) : List Char := texts.flatMap fun text => ',' :: ' ' :: text.toList

theorem toList_intercalate_cons (text : String) (texts : List String) :
    (", ".intercalate (text :: texts)).toList = text.toList ++ furtherText texts := by
  induction texts generalizing text with
  | nil => simp [furtherText]
  | cons t texts ih =>
    rw [String.intercalate_cons_cons, String.toList_append, String.toList_append, ih]
    simp [furtherText]

namespace Expr

/-- The text of a constant begins with a quote, a digit, a point or a letter. -/
theorem exists_first_literal {v : Value} {text : String} (hv : rendersValue v) (ht : literalSource v = .ok text) :
    ∃ c, text.toList.head? = some c ∧ c ≠ '=' := by
  cases v with
  | null =>
    obtain rfl : "null" = text := Except.ok.inj ht
    exact ⟨'n', by simp, by decide⟩
  | bool b =>
    obtain rfl : (if b then "true" else "false") = text := Except.ok.inj ht
    cases b
    · exact ⟨'f', by simp, by decide⟩
    · exact ⟨'t', by simp, by decide⟩
  | text s =>
    obtain rfl : quotedSource s = text := Except.ok.inj ht
    exact ⟨'\'', by simp [quotedSource], by decide⟩
  | number n =>
    obtain ⟨c, cs, hcs, hl⟩ := isNumber_of_literalSource hv ht
    refine ⟨c, by simp [hcs], ?_⟩
    rintro rfl
    exact absurd (beginsNumber_of_lexeme hl) (by simp [beginsNumber, isAsciiDigit_iff])
  | _ => exact hv.elim

theorem exists_first_name {s : String} (hs : isName s = true) : ∃ c, s.toList.head? = some c ∧ c ≠ '=' := by
  obtain ⟨c, cs, hcs, hc⟩ := exists_of_isName hs
  exact ⟨c, by simp [hcs], ne_of_isNameStart hc (by decide)⟩

/-- The text of a tree begins with a character that does not go on a prefix operator. -/
theorem exists_first : (e : Expr) → e.Renderable → {text : String} → rendered e = .ok text →
    ∃ c, text.toList.head? = some c ∧ c ≠ '='
  | literal _ _, he, _, h => exists_first_literal he.self h
  | name _ s, he, text, h => by
    obtain rfl : s = text := Except.ok.inj h
    exact exists_first_name he.self.1
  | array _ items, _, text, h => by
    obtain ⟨texts, -, h⟩ := bind_eq_ok_iff.mp h
    obtain rfl := Except.ok.inj h
    exact ⟨'[', by simp, by decide⟩
  | member _ obj field guarded, he, text, h => by
    obtain ⟨t, ht, h⟩ := bind_eq_ok_iff.mp h
    obtain rfl := Except.ok.inj h
    obtain ⟨c, hc, hne⟩ := exists_first obj (he.part List.mem_cons_self) ht
    exact ⟨c, by simp [hc], hne⟩
  | index _ obj key _, he, text, h => by
    obtain ⟨t, ht, h⟩ := bind_eq_ok_iff.mp h
    obtain ⟨k, -, h⟩ := bind_eq_ok_iff.mp h
    obtain rfl := Except.ok.inj h
    obtain ⟨c, hc, hne⟩ := exists_first obj (he.part List.mem_cons_self) ht
    exact ⟨c, by simp [hc], hne⟩
  | call _ s args, he, text, h => by
    obtain ⟨texts, -, h⟩ := bind_eq_ok_iff.mp h
    obtain rfl := Except.ok.inj h
    obtain ⟨c, hc, hne⟩ := exists_first_name he.self.1
    exact ⟨c, by simp [hc], hne⟩
  | prefixed _ op operand, he, text, h => by
    obtain ⟨t, -, h⟩ := bind_eq_ok_iff.mp h
    obtain rfl := Except.ok.inj h
    cases op with
    | not => exact ⟨'!', by simp [PrefixOp.spelling], by decide⟩
    | negate => exact ⟨'-', by simp [PrefixOp.spelling], by decide⟩
    | plus => exact ⟨'+', by simp [PrefixOp.spelling], by decide⟩
    | other s => exact absurd rfl (he.self s)
  | binary _ op left right, _, text, h => by
    obtain ⟨t, -, h⟩ := bind_eq_ok_iff.mp h
    obtain ⟨u, -, h⟩ := bind_eq_ok_iff.mp h
    obtain rfl := Except.ok.inj h
    exact ⟨'(', by simp, by decide⟩
  | logical _ op left right, _, text, h => by
    obtain ⟨t, -, h⟩ := bind_eq_ok_iff.mp h
    obtain ⟨u, -, h⟩ := bind_eq_ok_iff.mp h
    obtain rfl := Except.ok.inj h
    exact ⟨'(', by simp, by decide⟩
  | conditional _ test yes no, _, text, h => by
    obtain ⟨t, -, h⟩ := bind_eq_ok_iff.mp h
    obtain ⟨u, -, h⟩ := bind_eq_ok_iff.mp h
    obtain ⟨w, -, h⟩ := bind_eq_ok_iff.mp h
    obtain rfl := Except.ok.inj h
    exact ⟨'(', by simp, by decide⟩
  | unknown _, he, _, _ => he.self.elim

/-- Further items begin with a comma, and none leave what comes after them. -/
theorem follows_furtherText {e : Expr} {texts : List String} {close : Char} (hclose : close ∈ followers)
    (hpoint : close ≠ '.') : Follows e (furtherText texts ++ close :: rest) := by
  cases texts with
  | nil => exact .cons hclose hpoint
  | cons text texts => exact .cons (by decide) (by decide)

/-- Two texts with an infix operator between them, in parentheses. -/
theorem scans_group {left right : Expr} {t u spelling : String} {l : Lexeme}
    (hleft : ∀ {rest : List Char} {ls : List Lexeme}, Scans rest ls → Follows left rest →
      Scans (t.toList ++ rest) (left.lexemes ++ ls))
    (hright : ∀ {rest : List Char} {ls : List Lexeme}, Scans rest ls → Follows right rest →
      Scans (u.toList ++ rest) (right.lexemes ++ ls))
    (hop : ∀ {rest : List Char} {ls : List Lexeme}, Scans rest ls → Scans (spelling.toList ++ ' ' :: rest) (l :: ls))
    (hs : Scans rest ls) :
    Scans (("(" ++ t ++ " " ++ spelling ++ " " ++ u ++ ")").toList ++ rest)
      (.op .openParen :: (left.lexemes ++ l :: (right.lexemes ++ [.op .closeParen])) ++ ls) := by
  have hclose := hs.mark .closeParen (c := ')') (by cbv) fun _ _ => rfl
  have hafter := (hop (hright hclose (.cons (by decide) (by decide)))).space
  have hbefore := hleft hafter (.cons (by decide) (by decide))
  have hopen := hbefore.mark .openParen (c := '(') (by cbv) fun _ _ => rfl
  simpa using hopen

mutual

/-- The text of a tree scans to the lexemes of the tree, and what follows to its own. -/
theorem scans_rendered : (e : Expr) → e.Renderable → {text : String} → rendered e = .ok text →
    {rest : List Char} → {ls : List Lexeme} → Scans rest ls → Follows e rest →
    Scans (text.toList ++ rest) (e.lexemes ++ ls)
  | literal _ _, he, _, h, _, _, hs, hf => hs.value he.self h hf
  | name _ s, he, text, h, rest, ls, hs, hf => by
    obtain rfl : s = text := Except.ok.inj h
    exact hs.keyword he.self.1 hf.follower
  | array _ items, he, text, h, rest, ls, hs, hf => by
    obtain ⟨texts, htexts, h⟩ := bind_eq_ok_iff.mp h
    obtain rfl := Except.ok.inj h
    have hclose := hs.mark .closeBracket (c := ']') (by cbv) fun _ _ => rfl
    have hitems := scans_items items (fun part hp => he.part hp) htexts (by decide) (by decide) hclose
    have hopen := hitems.mark .openBracket (c := '[') (by cbv) fun _ _ => rfl
    simpa [lexemes] using hopen
  | member _ obj field guarded, he, text, h, rest, ls, hs, hf => by
    obtain ⟨t, ht, h⟩ := bind_eq_ok_iff.mp h
    obtain rfl := Except.ok.inj h
    obtain ⟨hname, -, hinteger⟩ := he.self
    have hfield := hs.keyword hname hf.follower
    cases guarded with
    | false =>
      -- an integer in front of the point would take it for its decimal point
      have hdot := hfield.mark .dot (c := '.') (by cbv) (endsBefore_name hname (.inl rfl))
      have hobj := scans_rendered obj (he.part List.mem_cons_self) ht hdot
        ⟨by simp [followers], fun _ => hinteger rfl⟩
      simpa [lexemes] using hobj
    | true =>
      have hdot := hfield.op .guardedDot (endsBefore_name hname (.inr rfl))
      have hobj := scans_rendered obj (he.part List.mem_cons_self) ht hdot
        (.cons (c := '?') (by decide) (by decide))
      simpa [lexemes, Operator.spelling] using hobj
  | index _ obj key _, he, text, h, rest, ls, hs, hf => by
    obtain ⟨t, ht, h⟩ := bind_eq_ok_iff.mp h
    obtain ⟨k, hk, h⟩ := bind_eq_ok_iff.mp h
    obtain rfl := Except.ok.inj h
    have hclose := hs.mark .closeBracket (c := ']') (by cbv) fun _ _ => rfl
    have hkey := scans_rendered key (he.part (by simp [children])) hk hclose (.cons (by decide) (by decide))
    have hopen := hkey.mark .openBracket (c := '[') (by cbv) fun _ _ => rfl
    have hobj := scans_rendered obj (he.part (by simp [children])) ht hopen (.cons (by decide) (by decide))
    simpa [lexemes] using hobj
  | call _ s args, he, text, h, rest, ls, hs, hf => by
    obtain ⟨texts, htexts, h⟩ := bind_eq_ok_iff.mp h
    obtain rfl := Except.ok.inj h
    have hclose := hs.mark .closeParen (c := ')') (by cbv) fun _ _ => rfl
    have hargs := scans_items args (fun part hp => he.part hp) htexts (by decide) (by decide) hclose
    have hopen := hargs.mark .openParen (c := '(') (by cbv) fun _ _ => rfl
    have hcallee := hopen.name he.self.1 (by simp; decide)
    simpa [lexemes] using hcallee
  | prefixed _ op operand, he, text, h, rest, ls, hs, hf => by
    obtain ⟨t, ht, h⟩ := bind_eq_ok_iff.mp h
    obtain rfl := Except.ok.inj h
    have hpart : operand.Renderable := he.part List.mem_cons_self
    have hoperand := scans_rendered operand hpart ht hs ⟨hf.follower, hf.point⟩
    obtain ⟨c, hc, hne⟩ := exists_first operand hpart ht
    -- an `=` behind the operator would make another operator of the two
    have hfirst : ∀ d ∈ (t.toList ++ rest).head?, d ≠ '=' := by
      rw [List.head?_append, hc]
      simpa using hne
    have hop := hoperand.prefixOp he.self hfirst
    simpa [lexemes] using hop
  | binary _ op left right, he, text, h, rest, ls, hs, hf => by
    obtain ⟨t, ht, h⟩ := bind_eq_ok_iff.mp h
    obtain ⟨u, hu, h⟩ := bind_eq_ok_iff.mp h
    obtain rfl := Except.ok.inj h
    exact scans_group (scans_rendered left (he.part (by simp [children])) ht)
      (scans_rendered right (he.part (by simp [children])) hu) (fun hs => hs.binaryOp he.self) hs
  | logical _ op left right, he, text, h, rest, ls, hs, hf => by
    obtain ⟨t, ht, h⟩ := bind_eq_ok_iff.mp h
    obtain ⟨u, hu, h⟩ := bind_eq_ok_iff.mp h
    obtain rfl := Except.ok.inj h
    exact scans_group (scans_rendered left (he.part (by simp [children])) ht)
      (scans_rendered right (he.part (by simp [children])) hu) (fun hs => hs.logicalOp he.self) hs
  | conditional _ test yes no, he, text, h, rest, ls, hs, hf => by
    obtain ⟨t, ht, h⟩ := bind_eq_ok_iff.mp h
    obtain ⟨u, hu, h⟩ := bind_eq_ok_iff.mp h
    obtain ⟨w, hw, h⟩ := bind_eq_ok_iff.mp h
    obtain rfl := Except.ok.inj h
    have hclose := hs.mark .closeParen (c := ')') (by cbv) fun _ _ => rfl
    have hno := scans_rendered no (he.part (by simp [children])) hw hclose (.cons (by decide) (by decide))
    have hcolon := (hno.space.mark .colon (c := ':') (by cbv) fun _ _ => rfl).space
    have hyes := scans_rendered yes (he.part (by simp [children])) hu hcolon (.cons (by decide) (by decide))
    have hquestion := (hyes.space.mark .question (c := '?') (by cbv) (endsBefore_space _)).space
    have htest := scans_rendered test (he.part (by simp [children])) ht hquestion (.cons (by decide) (by decide))
    have hopen := htest.mark .openParen (c := '(') (by cbv) fun _ _ => rfl
    simpa [lexemes] using hopen
  | unknown _, he, _, _, _, _, _, _ => he.self.elim

/-- Items with commas between them, before the bracket that closes them. -/
theorem scans_items : (es : List Expr) → (∀ e ∈ es, e.Renderable) → {texts : List String} →
    renderedAll es = .ok texts → {close : Char} → close ∈ followers → close ≠ '.' →
    {rest : List Char} → {ls : List Lexeme} → Scans (close :: rest) ls →
    Scans ((", ".intercalate texts).toList ++ close :: rest) (itemLexemes es ++ ls)
  | [], _, texts, h, _, _, _, _, _, hs => by
    obtain rfl : [] = texts := Except.ok.inj h
    simpa [itemLexemes] using hs
  | e :: es, he, texts, h, close, hclose, hpoint, rest, ls, hs => by
    obtain ⟨t, ht, h⟩ := bind_eq_ok_iff.mp h
    obtain ⟨ts, hts, h⟩ := bind_eq_ok_iff.mp h
    obtain rfl : t :: ts = texts := Except.ok.inj h
    have hfurther := scans_further es (fun part hp => he part (List.mem_cons_of_mem _ hp)) hts hclose hpoint hs
    have hfirst := scans_rendered e (he e List.mem_cons_self) ht hfurther (follows_furtherText hclose hpoint)
    rw [toList_intercalate_cons]
    simpa [itemLexemes] using hfirst

/-- Items that each follow a comma, before the bracket that closes them. -/
theorem scans_further : (es : List Expr) → (∀ e ∈ es, e.Renderable) → {texts : List String} →
    renderedAll es = .ok texts → {close : Char} → close ∈ followers → close ≠ '.' →
    {rest : List Char} → {ls : List Lexeme} → Scans (close :: rest) ls →
    Scans (furtherText texts ++ close :: rest) (furtherLexemes es ++ ls)
  | [], _, texts, h, _, _, _, _, _, hs => by
    obtain rfl : [] = texts := Except.ok.inj h
    simpa [furtherText, furtherLexemes] using hs
  | e :: es, he, texts, h, close, hclose, hpoint, rest, ls, hs => by
    obtain ⟨t, ht, h⟩ := bind_eq_ok_iff.mp h
    obtain ⟨ts, hts, h⟩ := bind_eq_ok_iff.mp h
    obtain rfl : t :: ts = texts := Except.ok.inj h
    have hfurther := scans_further es (fun part hp => he part (List.mem_cons_of_mem _ hp)) hts hclose hpoint hs
    have hnext := scans_rendered e (he e List.mem_cons_self) ht hfurther (follows_furtherText hclose hpoint)
    have hcomma := hnext.space.mark .comma (c := ',') (by cbv) fun _ _ => rfl
    simpa [furtherText, furtherLexemes] using hcomma

end

end Expr
end CaptionAnimation.Expression
