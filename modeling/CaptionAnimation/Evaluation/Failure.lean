import CaptionAnimation.Expression.Failure

/-! # Failed evaluations

Why an expression has no value in a context, which part of it is to blame, and where in the transcript. -/
namespace CaptionAnimation

inductive EvaluationError.Cause where
  /-- A name or a helper refused. -/
  | refused (fault : Fault)
  | unknownNode
  | prefixOperand (op kind : String)
  | readOfNull (field : String)
  | unknownField (field kind : String)
  | indexNotInteger (kind : String)
  | outOfRange (index : Int)
  | notIndexable (kind key : String)
  | incomparable (left op right : String)
  | notInText (kind : String)
  | notMapKey (kind : String)
  | notContainer (kind : String)
  | notApplicable (op left right : String)
  | divisionByZero
  | overflow (op : String)
  | unknownHelper (name : String)
  | wrongArity (name arity : String) (given : Nat)

structure EvaluationError where
  cause : EvaluationError.Cause
  /-- The source that was evaluated; empty as long as it is not known. -/
  expression : String
  /-- The part to blame. -/
  reference : Option String
  location : Option String

namespace EvaluationError

def Cause.message : Cause → String
  | refused fault => fault.message
  | unknownNode => "Unsupported expression node Node"
  | prefixOperand op kind => "Unary '" ++ op ++ "' expects a number, got " ++ kind
  | readOfNull field => "Cannot read '" ++ field ++ "' of null"
  | unknownField field kind => "Unknown field '" ++ field ++ "' on " ++ kind
  | indexNotInteger kind => "List index must be an integer, got " ++ kind
  | outOfRange index => "Index " ++ toString index ++ " out of range"
  | notIndexable kind key => "Cannot index " ++ kind ++ " with " ++ key
  | incomparable left op right => "Cannot compare " ++ left ++ " " ++ op ++ " " ++ right
  | notInText kind => "Cannot test " ++ kind ++ " in string"
  | notMapKey kind => "Cannot use " ++ kind ++ " as a map key"
  | notContainer kind => "Cannot test membership in " ++ kind
  | notApplicable op left right => "Cannot apply '" ++ op ++ "' to " ++ left ++ " and " ++ right
  | divisionByZero => "Division by zero"
  | overflow op => "Numeric overflow in '" ++ op ++ "'"
  | unknownHelper name => "Unknown helper '" ++ name ++ "'"
  | wrongArity name arity given =>
    name ++ "() takes " ++ arity ++ " arguments, got " ++ toString given

/-- A message with the details that are known; empty details are left out. -/
def text (message expression : String) (reference location : Option String) : String :=
  let part (before : String) (detail : Option String) (after : String) : List String :=
    match detail with
    | some s => if s.isEmpty then [] else [before ++ s ++ after]
    | none => []
  " ".intercalate <|
    [message] ++ part "(in '" reference "')" ++ part "evaluating '" (some expression) "'" ++ part "at " location ""

def message (e : EvaluationError) : String := text e.cause.message e.expression e.reference e.location

end EvaluationError

/-- Everything that can go wrong with an expression. The first two are errors of the expression; a fault is one of
the data it meets. -/
inductive Failure where
  | malformed (e : Expression.SyntaxError)
  | evaluation (e : EvaluationError)
  | fault (f : Fault)

namespace Failure

def message : Failure → String
  | malformed e => e.message
  | evaluation e => e.message
  | fault f => f.message

/-- An error of the expression itself, which costs no more than that expression. -/
def ofExpression : Failure → Bool
  | malformed _ | evaluation _ => true
  | fault _ => false

end Failure
end CaptionAnimation
