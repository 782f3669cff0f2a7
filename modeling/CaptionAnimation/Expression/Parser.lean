import CaptionAnimation.Expression.Lexer
import CaptionAnimation.Expression.Syntax

/-! # Reading expressions

A reader takes an expression off the front of a token list. Precedence, loosest first: `? :`, `??`, `||`, `&&`,
equality, comparison and `in`, sums, products, prefix operators, then `.name`, `?.name`, `[key]` and calls.
Binary operators group to the left, conditionals to the right. At most `maxNesting` levels may enclose a point:
one for the whole source, each pair of brackets, each call argument and array item, each branch of a
conditional, and each prefix operator. -/
namespace CaptionAnimation.Expression

def maxNesting : Nat := 64

/-- Why a reader stopped, and the tokens from the offending one on. -/
structure Stop where
  want : Want
  rest : List Token

abbrev Reader (α : Type) := List Token → Except Stop (α × List Token)

/-- A reader that goes on from an expression already read. -/
abbrev Extender := Expr → Reader Expr

def expectOp (o : Operator) : Reader Unit
  | t :: ts => if t.isOp o then .ok ((), ts) else .error ⟨.operator o, t :: ts⟩
  | [] => .error ⟨.operator o, []⟩

/-- How an infix token joins what stands on its two sides. -/
abbrev Joint := Expr → Expr → Expr

/-- Operands joined as long as the next token is an infix of the level. Each round takes a token, so `rounds` is any
list no shorter than the tokens. -/
def chainRest (joint? : Token → Option Joint) (operand : Reader Expr) : (rounds : List Token) → Extender
  | [], left, ts => .ok (left, ts)
  | _ :: _, left, [] => .ok (left, [])
  | _ :: rounds, left, t :: ts =>
    match joint? t with
    | none => .ok (left, t :: ts)
    | some joint => do
      let (right, rest) ← operand ts
      chainRest joint? operand rounds (joint left right) rest

/-- One level of left-associative infix operators. -/
def chain (operand : Reader Expr) (joint? : Token → Option Joint) : Reader Expr := fun ts => do
  let (left, rest) ← operand ts
  chainRest joint? operand rest left rest

def binaryJoint (table : List (Operator × BinaryOp)) (t : Token) : Option Joint :=
  match t.lexeme with
  | .op o => (table.lookup o).map fun op => .binary t.pos op
  | _ => none

def productJoint : Token → Option Joint :=
  binaryJoint [(.times, .multiply), (.divide, .divide), (.remainder, .remainder)]

def sumJoint : Token → Option Joint := binaryJoint [(.plus, .add), (.minus, .subtract)]

def comparisonJoint (t : Token) : Option Joint :=
  match t.lexeme with
  | .name "in" => some (.binary t.pos .within)
  | _ =>
    binaryJoint [(.less, .less), (.lessEqual, .lessEqual), (.greater, .greater),
      (.greaterEqual, .greaterEqual)] t

/-- The strict spellings mean the same as the plain ones. -/
def equalityJoint : Token → Option Joint :=
  binaryJoint [(.equal, .equal), (.notEqual, .notEqual), (.strictEqual, .equal), (.strictNotEqual, .notEqual)]

def andJoint (t : Token) : Option Joint :=
  match t.lexeme with
  | .op .and | .name "and" => some (.logical t.pos .and)
  | _ => none

def orJoint (t : Token) : Option Joint :=
  match t.lexeme with
  | .op .or | .name "or" => some (.logical t.pos .or)
  | _ => none

def coalesceJoint (t : Token) : Option Joint :=
  match t.lexeme with
  | .op .coalesce => some (.logical t.pos .coalesce)
  | _ => none

/-- The infix levels, tightest first. -/
def infixLevels : List (Token → Option Joint) :=
  [productJoint, sumJoint, comparisonJoint, equalityJoint, andJoint, orJoint, coalesceJoint]

/-- Everything looser than prefix operators and tighter than conditionals. -/
def binaryExpr (operand : Reader Expr) : Reader Expr := infixLevels.foldl chain operand

/-- Further items after commas; each round takes a comma. -/
def moreItems (item : Reader Expr) : (rounds : List Token) → Reader (List Expr)
  | [], ts => .ok ([], ts)
  | _ :: _, [] => .ok ([], [])
  | _ :: rounds, t :: ts =>
    if t.isOp .comma then do
      let (e, rest) ← item ts
      let (es, rest) ← moreItems item rounds rest
      return (e :: es, rest)
    else .ok ([], t :: ts)

/-- Items between commas; none where the closing bracket stands. -/
def itemsBefore (close : Operator) (item : Reader Expr) : Reader (List Expr) := fun ts =>
  if ts.head?.any (·.isOp close) then .ok ([], ts)
  else do
    let (first, rest) ← item ts
    let (more, rest) ← moreItems item rest rest
    return (first :: more, rest)

/-- Items and the bracket that closes them. -/
def itemsUntil (close : Operator) (item : Reader Expr) : Reader (List Expr) := fun ts => do
  let (items, rest) ← itemsBefore close item ts
  let ((), rest) ← expectOp close rest
  return (items, rest)

/-- The helper that a callee names: `name` or `helpers.name`. -/
def calleeName? : Expr → Option String
  | .name _ name => some name
  | .member _ (.name _ "helpers") name _ => some name
  | _ => none

/-- Member accesses, indexes and calls after an expression; each round takes a token. -/
def postfixRest (nested : Reader Expr) : (rounds : List Token) → Extender
  | [], e, ts => .ok (e, ts)
  | _ :: _, e, [] => .ok (e, [])
  | _ :: rounds, e, t :: ts =>
    match t.lexeme with
    | .op .dot | .op .guardedDot =>
      match ts with
      | ⟨.name name, _⟩ :: rest => postfixRest nested rounds (.member t.pos e name (t.isOp .guardedDot)) rest
      | _ => .error ⟨.propertyName, ts⟩
    | .op .openBracket => do
      let (key, rest) ← nested ts
      let ((), rest) ← expectOp .closeBracket rest
      postfixRest nested rounds (.index t.pos e key false) rest
    | .op .openParen =>
      match calleeName? e with
      | none => .error ⟨.callable, t :: ts⟩
      | some name => do
        let (args, rest) ← itemsUntil .closeParen nested ts
        postfixRest nested rounds (.call t.pos name args) rest
    | _ => .ok (e, t :: ts)

/-- Names that stand for operators where a value is wanted. -/
def operatorNames : List String := ["and", "or", "not", "in"]

def primary (nested : Reader Expr) : Reader Expr
  | [] => .error ⟨.value, []⟩
  | t :: ts =>
    match t.lexeme with
    | .number n => .ok (.literal t.pos (.number n), ts)
    | .text s => .ok (.literal t.pos (.text s), ts)
    | .name "true" => .ok (.literal t.pos (.bool true), ts)
    | .name "false" => .ok (.literal t.pos (.bool false), ts)
    | .name "null" => .ok (.literal t.pos .null, ts)
    | .name name => if operatorNames.contains name then .error ⟨.operand, t :: ts⟩ else .ok (.name t.pos name, ts)
    | .op .openParen => do
      let (e, rest) ← nested ts
      let ((), rest) ← expectOp .closeParen rest
      return (e, rest)
    | .op .openBracket => do
      let (items, rest) ← itemsUntil .closeBracket nested ts
      return (.array t.pos items, rest)
    | _ => .error ⟨.value, t :: ts⟩

def postfixExpr (nested : Reader Expr) : Reader Expr := fun ts => do
  let (e, rest) ← primary nested ts
  postfixRest nested rest e rest

def prefixOp? (t : Token) : Option PrefixOp :=
  match t.lexeme with
  | .op .not | .name "not" => some .not
  | .op .minus => some .negate
  | .op .plus => some .plus
  | _ => none

/-- A prefix operator and its operand, read one level deeper, or a postfix expression. -/
def prefixExpr (deeper : Option (Reader Expr)) (nested : Reader Expr) : Reader Expr
  | [] => postfixExpr nested []
  | t :: ts =>
    match prefixOp? t with
    | none => postfixExpr nested (t :: ts)
    | some op =>
      match deeper with
      | none => .error ⟨.shallower, t :: ts⟩
      | some operand => do
        let (e, rest) ← operand ts
        return (.prefixed t.pos op e, rest)

/-- A conditional or a binary expression. -/
def conditionalExpr (branch operand : Reader Expr) : Reader Expr := fun ts => do
  let (test, rest) ← binaryExpr operand ts
  match rest with
  | [] => return (test, [])
  | t :: more =>
    if t.isOp .question then do
      let (yes, rest) ← branch more
      let ((), rest) ← expectOp .colon rest
      let (no, rest) ← branch rest
      return (.conditional t.pos test yes no, rest)
    else return (test, t :: more)

/-- The readers for a whole expression and for an operand, when so many more levels may be opened. -/
def readers : Nat → Reader Expr × Reader Expr
  | 0 =>
    let whole : Reader Expr := fun ts => .error ⟨.shallower, ts⟩
    (whole, prefixExpr none whole)
  | levels + 1 =>
    let (branch, operand) := readers levels
    let whole := conditionalExpr branch operand
    (whole, prefixExpr (some operand) whole)

/-- Reads all tokens as one expression. -/
def readTokens (ts : List Token) : Except Stop Expr := do
  let (e, rest) ← (readers maxNesting).1 ts
  if rest.isEmpty then return e else throw ⟨.endOfSource, rest⟩

/-- Reads a source as an expression. -/
def parse (source : String) : Except SyntaxError Expr := do
  let ts ← scan source
  if ts.isEmpty then throw ⟨.empty, source, 0⟩
  match readTokens ts with
  | .ok e => return e
  | .error stop =>
    let found := stop.rest.head?
    throw ⟨.stopped stop.want (found.map Token.lexeme), source, (found.map Token.pos).getD source.length⟩

end CaptionAnimation.Expression
