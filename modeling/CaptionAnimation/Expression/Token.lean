import CaptionAnimation.Number.Reading

/-! # Tokens

The words of an expression: numbers, quoted texts, names, and the operators and brackets. -/
namespace CaptionAnimation.Expression

inductive Operator where
  | strictEqual
  | strictNotEqual
  | equal
  | notEqual
  | lessEqual
  | greaterEqual
  | and
  | or
  | coalesce
  | guardedDot
  | less
  | greater
  | plus
  | minus
  | times
  | divide
  | remainder
  | not
  | question
  | colon
  | dot
  | comma
  | openParen
  | closeParen
  | openBracket
  | closeBracket
deriving DecidableEq, Repr

namespace Operator

def spelling : Operator → String
  | strictEqual => "==="
  | strictNotEqual => "!=="
  | equal => "=="
  | notEqual => "!="
  | lessEqual => "<="
  | greaterEqual => ">="
  | and => "&&"
  | or => "||"
  | coalesce => "??"
  | guardedDot => "?."
  | less => "<"
  | greater => ">"
  | plus => "+"
  | minus => "-"
  | times => "*"
  | divide => "/"
  | remainder => "%"
  | not => "!"
  | question => "?"
  | colon => ":"
  | dot => "."
  | comma => ","
  | openParen => "("
  | closeParen => ")"
  | openBracket => "["
  | closeBracket => "]"

/-- All operators; of two with a common beginning the longer comes first. -/
def all : List Operator :=
  [strictEqual, strictNotEqual, equal, notEqual, lessEqual, greaterEqual, and, or, coalesce, guardedDot,
   less, greater, plus, minus, times, divide, remainder, not, question, colon, dot, comma,
   openParen, closeParen, openBracket, closeBracket]

end Operator

inductive Lexeme where
  | number (n : Number)
  | text (s : String)
  | name (s : String)
  | op (o : Operator)
  /-- The end of the source. -/
  | stop

/-- A lexeme and the offset of its first character. -/
structure Token where
  lexeme : Lexeme
  pos : Nat

/-- The lexeme as messages show it. -/
def Lexeme.shown : Lexeme → String
  | number (.int n) => toString n
  | number (.double q) => Notation.float q.value
  | text s => s
  | name s => s
  | op o => o.spelling
  | stop => ""

def Token.isOp (t : Token) (o : Operator) : Bool :=
  match t.lexeme with
  | .op p => p == o
  | _ => false

end CaptionAnimation.Expression
