import CaptionAnimation.Expression.Token

/-! # Syntax errors

Why a source is no expression, and at which offset. -/
namespace CaptionAnimation.Expression

/-- What a reader wanted at the token that stopped it. -/
inductive Want where
  | operator (o : Operator)
  | endOfSource
  | propertyName
  | callable
  | operand
  | value
  | shallower
deriving DecidableEq, Repr

inductive SyntaxError.Cause where
  | notText (kind : String)
  | empty
  | numberTooLong
  | unexpectedCharacter (c : Char)
  | unterminatedText
  /-- The token found, or `none` at the end of the source. -/
  | stopped (want : Want) (found : Option Lexeme)

structure SyntaxError where
  cause : SyntaxError.Cause
  source : String
  position : Nat

namespace SyntaxError

def describe (what : String) (found : Option Lexeme) : String :=
  what ++ ", found " ++ match found with
    | none => "end of expression"
    | some l => "'" ++ l.shown ++ "'"

def Cause.message : Cause → String
  | notText kind => "Expression must be a string, got " ++ kind
  | empty => "Empty expression"
  | numberTooLong => "Number literal is too long"
  | unexpectedCharacter c => "Unexpected character '" ++ String.singleton c ++ "'"
  | unterminatedText => "Unterminated string literal"
  | stopped (.operator o) found => describe ("Expected '" ++ o.spelling ++ "'") found
  | stopped .endOfSource found => describe "Unexpected token" found
  | stopped .propertyName found => describe "Expected property name" found
  | stopped .callable found => describe "Only helper functions can be called" found
  | stopped .operand found => describe "Unexpected keyword" found
  | stopped .value found => describe "Expected a value" found
  | stopped .shallower _ => "Expression nested too deeply"

/-- The full text of a syntax error. -/
def text (message : String) (position : Int) (source : String) : String :=
  message ++ " at position " ++ toString position ++ " in '" ++ source ++ "'"

def message (e : SyntaxError) : String := text e.cause.message e.position e.source

end SyntaxError
end CaptionAnimation.Expression
