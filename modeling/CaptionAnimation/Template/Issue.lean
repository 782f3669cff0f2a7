import CaptionAnimation.Expression.Failure
import CaptionAnimation.Fault

/-! # Issues

What validation finds wrong or doubtful in a template. Issues are data: a cause, and the rule or variable it
concerns. -/
namespace CaptionAnimation

/-- An expression of a template. -/
inductive Site where
  | variable (name : String)
  | condition (rule : String)
  | intensity (rule : String)

namespace Issue

inductive Severity where
  | error
  | warning
deriving DecidableEq, Repr

inductive Cause where
  /-- The template cannot be read. -/
  | unreadable (fault : Fault)
  /-- Validation itself broke off. -/
  | brokenOff (fault : Fault)
  | noTemplateId
  | noRules (template : String)
  | unnamedVariable (number : Nat)
  | duplicateVariable (name : String)
  | unnamedRule (number : Nat)
  | duplicateRule (id : String)
  | notNumber (rule label shown : String)
  | notFinite (rule label shown : String)
  | badGroup (rule : String)
  | badSwitch (rule : String)
  | disabled (rule : String)
  | noPlugin (rule : String)
  | badParams (rule : String)
  | badTiming (rule : String)
  | badOffset (rule shown : String)
  | noCondition (rule : String)
  | blank (site : Site)
  | malformed (site : Site) (e : Expression.SyntaxError)
  | unknownReference (site : Site) (name : String)
  | undeclaredVariable (site : Site) (name : String)
  | unknownHelper (site : Site) (name : String)
  | wrongArity (site : Site) (name arity : String) (given : Nat)
  | computedLater (site : Site) (name : String)
  | needsWord (site : Site) (names : List String)

end Issue

structure Issue where
  cause : Issue.Cause
  ruleId : Option String := none
  variableName : Option String := none

def Site.label : Site → String
  | .variable name => "Variable '" ++ name ++ "'"
  | .condition rule => "Rule '" ++ rule ++ "'"
  | .intensity rule => "Rule '" ++ rule ++ "' intensity"

namespace Issue

/-- What can be run in spite of an issue is only warned about. -/
def Cause.severity : Cause → Severity
  | noRules _ | disabled _ | computedLater _ _ | needsWord _ _ => .warning
  | _ => .error

def severity (i : Issue) : Severity := i.cause.severity

def Severity.name : Severity → String
  | error => "error"
  | warning => "warning"

def Cause.message : Cause → String
  | unreadable fault => "Invalid template structure: " ++ fault.message
  | brokenOff fault => "Validation failed: " ++ fault.message
  | noTemplateId => "Template id is required"
  | noRules template => "Template '" ++ template ++ "' has no rules"
  | unnamedVariable number => "Variable #" ++ toString number ++ " has no name"
  | duplicateVariable name => "Duplicate variable name '" ++ name ++ "'"
  | unnamedRule number => "Rule #" ++ toString number ++ " has no id"
  | duplicateRule id => "Duplicate rule id '" ++ id ++ "'"
  | notNumber rule label shown => about rule ++ label ++ " must be a number, got " ++ shown
  | notFinite rule label shown => about rule ++ label ++ " must be finite, got " ++ shown
  | badGroup rule => about rule ++ "conflict group must be a non-empty string"
  | badSwitch rule => about rule ++ "enabled must be true or false"
  | disabled rule => "Rule '" ++ rule ++ "' is disabled"
  | noPlugin rule => about rule ++ "animation pluginName is required"
  | badParams rule => about rule ++ "animation params must be an object"
  | badTiming rule => about rule ++ "animation timing is malformed"
  | badOffset rule shown =>
    about rule ++ "timing offset must be a pair of strings like ['0', '200ms'], got " ++ shown
  | noCondition rule => about rule ++ "condition is required"
  | blank site => site.label ++ ": expression is empty"
  | malformed site e => site.label ++ ": syntax error: " ++ e.message
  | unknownReference site name => site.label ++ ": unknown reference '" ++ name ++ "'"
  | undeclaredVariable site name => site.label ++ ": undeclared variable '" ++ name ++ "'"
  | unknownHelper site name => site.label ++ ": unknown helper '" ++ name ++ "'"
  | wrongArity site name arity given =>
    site.label ++ ": " ++ name ++ "() takes " ++ arity ++ " arguments, got " ++ toString given
  | computedLater site name =>
    site.label ++ " references '" ++ name ++ "' before it is computed; it will resolve to null"
  | needsWord site names =>
    site.label ++ " references " ++ ", ".intercalate names
      ++ ", which is not available when computing template variables"
where
  about (rule : String) : String := "Rule '" ++ rule ++ "': "

def message (i : Issue) : String := i.cause.message

def isError (i : Issue) : Bool := i.severity = .error

end Issue
end CaptionAnimation
