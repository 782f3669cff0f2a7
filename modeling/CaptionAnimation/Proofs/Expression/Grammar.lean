import CaptionAnimation.Expression.Parser

/-! # The grammar of expressions

A phrase keeps every token of what it derives from, brackets and commas too. `Derives` is the documented grammar, with
one stratum for each precedence: the binary levels are left-recursive, conditionals right-recursive. A phrase gives
its tokens, its tree, and the number of levels that enclose its deepest point. -/
namespace CaptionAnimation.Expression

/-- The infix levels, tightest first. -/
inductive Level where
  | product
  | sum
  | comparison
  | equality
  | conjunction
  | disjunction
  | coalescence
deriving DecidableEq

/-- What an infix operator makes of its two sides. -/
inductive Connective where
  | binary (op : BinaryOp)
  | logical (op : LogicalOp)

def Connective.join (pos : Nat) (left right : Expr) : Connective → Expr
  | .binary op => .binary pos op left right
  | .logical op => .logical pos op left right

def Operator.connective? : Operator → Option (Level × Connective)
  | times => some (.product, .binary .multiply)
  | divide => some (.product, .binary .divide)
  | remainder => some (.product, .binary .remainder)
  | plus => some (.sum, .binary .add)
  | minus => some (.sum, .binary .subtract)
  | less => some (.comparison, .binary .less)
  | lessEqual => some (.comparison, .binary .lessEqual)
  | greater => some (.comparison, .binary .greater)
  | greaterEqual => some (.comparison, .binary .greaterEqual)
  | equal | strictEqual => some (.equality, .binary .equal)
  | notEqual | strictNotEqual => some (.equality, .binary .notEqual)
  | and => some (.conjunction, .logical .and)
  | or => some (.disjunction, .logical .or)
  | coalesce => some (.coalescence, .logical .coalesce)
  | _ => none

/-- The infix operators, each with its level and its meaning; the strict equalities and the names fold into the plain
operators. -/
def Lexeme.connective? : Lexeme → Option (Level × Connective)
  | .op o => o.connective?
  | .name "in" => some (.comparison, .binary .within)
  | .name "and" => some (.conjunction, .logical .and)
  | .name "or" => some (.disjunction, .logical .or)
  | _ => none

namespace Token

/-- The level at which the token stands between two operands. -/
def level? (t : Token) : Option Level := t.lexeme.connective?.map Prod.fst

def join (t : Token) (left right : Expr) : Expr :=
  match t.lexeme.connective? with
  | some (_, c) => c.join t.pos left right
  | none => .unknown t.pos

/-- The literal or identifier that the token is by itself. -/
def value? (t : Token) : Option Expr :=
  match t.lexeme with
  | .number n => some (.literal t.pos (.number n))
  | .text s => some (.literal t.pos (.text s))
  | .name "true" => some (.literal t.pos (.bool true))
  | .name "false" => some (.literal t.pos (.bool false))
  | .name "null" => some (.literal t.pos .null)
  | .name s => if s ∈ operatorNames then none else some (.name t.pos s)
  | _ => none

end Token

inductive Phrase where
  | value (t : Token)
  | group (o : Token) (body : Phrase) (c : Token)
  | array (o : Token) (content : Phrase) (c : Token)
  | member (obj : Phrase) (dot : Token) (name : String) (pos : Nat)
  | index (obj : Phrase) (o : Token) (key : Phrase) (c : Token)
  | call (callee : Phrase) (o : Token) (args : Phrase) (c : Token)
  | prefixed (op : Token) (operand : Phrase)
  | infixed (left : Phrase) (op : Token) (right : Phrase)
  | conditional (test : Phrase) (q : Token) (yes : Phrase) (colon : Token) (no : Phrase)
  /-- No items, or no further ones. -/
  | empty
  | items (first : Phrase) (rest : Phrase)
  | further (comma : Token) (next : Phrase) (rest : Phrase)

namespace Phrase

def tokens : Phrase → List Token
  | value t => [t]
  | group o body c => o :: (body.tokens ++ [c])
  | array o content c => o :: (content.tokens ++ [c])
  | member obj dot name pos => obj.tokens ++ [dot, ⟨.name name, pos⟩]
  | index obj o key c => obj.tokens ++ o :: (key.tokens ++ [c])
  | call callee o args c => callee.tokens ++ o :: (args.tokens ++ [c])
  | prefixed op operand => op :: operand.tokens
  | infixed left op right => left.tokens ++ op :: right.tokens
  | conditional test q yes colon no => test.tokens ++ q :: (yes.tokens ++ colon :: no.tokens)
  | empty => []
  | items first rest => first.tokens ++ rest.tokens
  | further comma next rest => comma :: (next.tokens ++ rest.tokens)

mutual

def tree : Phrase → Expr
  | value t => t.value?.getD (.unknown t.pos)
  | group _ body _ => body.tree
  | array o content _ => .array o.pos content.trees
  | member obj dot name _ => .member dot.pos obj.tree name (dot.isOp .guardedDot)
  | index obj o key _ => .index o.pos obj.tree key.tree false
  | call callee o args _ => .call o.pos ((calleeName? callee.tree).getD "") args.trees
  | prefixed op operand => .prefixed op.pos ((prefixOp? op).getD (.other "")) operand.tree
  | infixed left op right => op.join left.tree right.tree
  | conditional test q yes _ no => .conditional q.pos test.tree yes.tree no.tree
  | empty | items _ _ | further _ _ _ => .unknown 0

/-- The trees of the items of a list. -/
def trees : Phrase → List Expr
  | items first rest => first.tree :: rest.trees
  | further _ next rest => next.tree :: rest.trees
  | _ => []

end

/-- The levels that the phrase opens around its deepest point: brackets, indexes, items, branches and prefix operators
open one each. -/
def nesting : Phrase → Nat
  | value _ => 0
  | group _ body _ => body.nesting + 1
  | array _ content _ => content.nesting
  | member obj _ _ _ => obj.nesting
  | index obj _ key _ => max obj.nesting (key.nesting + 1)
  | call callee _ args _ => max callee.nesting args.nesting
  | prefixed _ operand => operand.nesting + 1
  | infixed left _ right => max left.nesting right.nesting
  | conditional test _ yes _ no => max test.nesting (max (yes.nesting + 1) (no.nesting + 1))
  | empty => 0
  | items first rest => max (first.nesting + 1) rest.nesting
  | further _ next rest => max (next.nesting + 1) rest.nesting

end Phrase

/-- The strata of the grammar, tightest first; `list` and `tail` are what stands between brackets. -/
inductive Stratum where
  | primary
  | access
  | operand
  | level (l : Level)
  | whole
  | list
  | tail

/-- The stratum of the operands of a level. -/
def Level.tighter : Level → Stratum
  | product => .operand
  | sum => .level .product
  | comparison => .level .sum
  | equality => .level .comparison
  | conjunction => .level .equality
  | disjunction => .level .conjunction
  | coalescence => .level .disjunction

/-- The grammar, one constructor a production. -/
inductive Derives : Stratum → Phrase → Prop
  | value {t : Token} : t.value?.isSome → Derives .primary (.value t)
  | group {o c : Token} {body : Phrase} : o.lexeme = .op .openParen → Derives .whole body →
      c.lexeme = .op .closeParen → Derives .primary (.group o body c)
  | array {o c : Token} {content : Phrase} : o.lexeme = .op .openBracket → Derives .list content →
      c.lexeme = .op .closeBracket → Derives .primary (.array o content c)
  | primary {p : Phrase} : Derives .primary p → Derives .access p
  | member {obj : Phrase} {dot : Token} {name : String} {pos : Nat} : Derives .access obj →
      dot.lexeme = .op .dot ∨ dot.lexeme = .op .guardedDot → Derives .access (.member obj dot name pos)
  | index {obj key : Phrase} {o c : Token} : Derives .access obj → o.lexeme = .op .openBracket →
      Derives .whole key → c.lexeme = .op .closeBracket → Derives .access (.index obj o key c)
  | call {callee args : Phrase} {o c : Token} : Derives .access callee → (calleeName? callee.tree).isSome →
      o.lexeme = .op .openParen → Derives .list args → c.lexeme = .op .closeParen →
      Derives .access (.call callee o args c)
  | access {p : Phrase} : Derives .access p → Derives .operand p
  | prefixed {op : Token} {operand : Phrase} : (prefixOp? op).isSome → Derives .operand operand →
      Derives .operand (.prefixed op operand)
  | tighter {l : Level} {p : Phrase} : Derives l.tighter p → Derives (.level l) p
  | infixed {l : Level} {left right : Phrase} {op : Token} : Derives (.level l) left → op.level? = some l →
      Derives l.tighter right → Derives (.level l) (.infixed left op right)
  | binary {p : Phrase} : Derives (.level .coalescence) p → Derives .whole p
  | conditional {test yes no : Phrase} {q colon : Token} : Derives (.level .coalescence) test →
      q.lexeme = .op .question → Derives .whole yes → colon.lexeme = .op .colon → Derives .whole no →
      Derives .whole (.conditional test q yes colon no)
  | noItems : Derives .list .empty
  | items {first rest : Phrase} : Derives .whole first → Derives .tail rest → Derives .list (.items first rest)
  | noFurther : Derives .tail .empty
  | further {comma : Token} {next rest : Phrase} : comma.lexeme = .op .comma → Derives .whole next →
      Derives .tail rest → Derives .tail (.further comma next rest)

end CaptionAnimation.Expression
