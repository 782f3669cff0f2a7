import CaptionAnimation.Evaluation.Context
import CaptionAnimation.Expression.Analysis
import CaptionAnimation.Expression.Parser
import CaptionAnimation.Helper.Registry
import CaptionAnimation.Template.Compiled
import CaptionAnimation.Template.Reading
import CaptionAnimation.Text.Blank
import CaptionAnimation.Value.Display

/-! # Validation

Reads every expression of a template, checks every field, and collects what is wrong. Compiling and validating see
the same findings. The only fault is a number too long to be quoted in an issue. -/
namespace CaptionAnimation

open Expression

namespace Value

/-- A number; booleans are none. -/
def number? : Value → Option Number
  | number n => some n
  | _ => none

/-- A text with more than blanks in it. -/
def written? : Value → Option String
  | text s => if (Text.trim s.toList).isEmpty then none else some s
  | _ => none

end Value

namespace Template

/-- What an expression refers to that is not there: names, variables, helpers and argument counts. -/
def referenceCauses (helpers : Registry) (declared : List String) (site : Site) (e : Expr) : List Issue.Cause :=
  let roots := (sortedNames e.rootNames).filter fun name => !Context.rootNames.contains name
  let undeclared := (sortedNames e.variableNames).filter fun name => !declared.contains name
  let calls := e.calls.filterMap fun (name, given) =>
    match helpers.find? name with
    | none => some (Issue.Cause.unknownHelper site name)
    | some helper => if helper.accepts given then none else some (.wrongArity site name helper.arity given)
  roots.map (.unknownReference site) ++ undeclared.map (.undeclaredVariable site) ++ calls

/-- Reads an expression and checks its references. -/
def checkExpression (helpers : Registry) (declared : List String) (site : Site) (source : Value) :
    List Issue.Cause × Option Expr :=
  match source.written? with
  | none => ([.blank site], none)
  | some text =>
    match parse text with
    | .error e => ([.malformed site e], none)
    | .ok e => (referenceCauses helpers declared site e, some e)

/-- The size of an expression, if there is one. -/
def nodesOf (e : Option Expr) : Nat := (e.map Expr.nodeCount).getD 0

/-- The findings of a part of a template. -/
structure Findings (α : Type) where
  issues : List Issue := []
  parts : List α := []
  nodes : Nat := 0

/-- Findings of one part before those of the next. -/
def Findings.followedBy (a b : Findings α) : Findings α :=
  ⟨a.issues ++ b.issues, a.parts ++ b.parts, a.nodes + b.nodes⟩

/-! ## Variables -/

/-- Doubts about a variable's expression: variables that are computed later, itself included, and names that need a
word. -/
def variableWarnings (declared seen : List String) (name : String) (e : Expr) : List Issue.Cause :=
  let site := Site.variable name
  let early := (sortedNames e.variableNames).filter fun ref => declared.contains ref && !seen.contains ref
  let words := (sortedNames e.rootNames).filter Context.wordRootNames.contains
  early.map (.computedLater site) ++ if words.isEmpty then [] else [.needsWord site words]

def variableFindings (helpers : Registry) (declared seen : List String) (index : Nat) (v : Variable) :
    Findings CompiledVariable :=
  let (causes, e) := checkExpression helpers declared (.variable v.name) v.expression
  let doubts := (e.map (variableWarnings declared seen v.name)).getD []
  { issues := (causes ++ doubts).map fun cause => { cause, variableName := some v.name }
    parts := [⟨v, e, index⟩]
    nodes := nodesOf e }

/-- Findings on variables from position `index` on; `seen` holds the names before it. Variables without a name of
their own are left out. -/
def variablesFrom (helpers : Registry) (declared : List String) : (seen : List String) → (index : Nat) →
    List Variable → Findings CompiledVariable
  | _, _, [] => {}
  | seen, index, v :: rest =>
    if v.name.isEmpty then
      Findings.followedBy { issues := [⟨.unnamedVariable (index + 1), none, none⟩] }
        (variablesFrom helpers declared seen (index + 1) rest)
    else if seen.contains v.name then
      Findings.followedBy { issues := [⟨.duplicateVariable v.name, none, some v.name⟩] }
        (variablesFrom helpers declared seen (index + 1) rest)
    else
      (variableFindings helpers declared seen index v).followedBy
        (variablesFrom helpers declared (v.name :: seen) (index + 1) rest)

/-! ## Rules -/

/-- A priority or intensity must be a finite number. -/
def numberCauses (rule label : String) (v : Value) : Except Fault (List Issue.Cause) :=
  match v.number? with
  | none => do return [.notNumber rule label (← v.display)]
  | some n => if n.isFinite then .ok [] else do return [.notFinite rule label (← v.display)]

def groupCauses (rule : String) : Value → List Issue.Cause
  | .text s => if s.isEmpty then [.badGroup rule] else []
  | _ => [.badGroup rule]

def switchCauses (rule : String) : Value → List Issue.Cause
  | .bool true => []
  | .bool false => [.disabled rule]
  | _ => [.badSwitch rule]

/-- Whether an offset is a pair of texts. -/
def isTextPair : Value → Bool
  | .tuple [.text _, .text _] => true
  | _ => false

def animationCauses (rule : String) (a : Animation) : Except Fault (List Issue.Cause) := do
  let plugin := match a.plugin with
    | .text s => if s.isEmpty then [Issue.Cause.noPlugin rule] else []
    | _ => [.noPlugin rule]
  let params := if a.params.entries?.isSome then [] else [Issue.Cause.badParams rule]
  let timing ←
    match a.schedule with
    | .malformed _ => pure [Issue.Cause.badTiming rule]
    | .timed t => if isTextPair t.offset then pure [] else do pure [.badOffset rule (← t.offset.display)]
  return plugin ++ params ++ timing

/-- The name that issues use for a rule: its id, or its number. -/
def ruleLabel (index : Nat) (r : Rule) : String := if r.id.isEmpty then "#" ++ toString (index + 1) else r.id

def identityIssues (seen : List String) (index : Nat) (r : Rule) : List Issue :=
  if r.id.isEmpty then [⟨.unnamedRule (index + 1), none, none⟩]
  else if seen.contains r.id then [⟨.duplicateRule r.id, some r.id, none⟩]
  else []

def conditionFindings (helpers : Registry) (declared : List String) (label : String) (condition : Value) :
    List Issue.Cause × Option Expr :=
  match condition.written? with
  | none => ([.noCondition label], none)
  | some _ => checkExpression helpers declared (.condition label) condition

def intensityFindings (helpers : Registry) (declared : List String) (label : String) :
    Value → List Issue.Cause × Option Expr
  | .null => ([], none)
  | source => checkExpression helpers declared (.intensity label) source

/-- A rule whose condition can be read and whose priority is a finite number. -/
def compileRule (template : String) (index : Nat) (r : Rule) (condition intensity : Option Expr) :
    List CompiledRule :=
  match condition, r.priority.number? with
  | some e, some n =>
    if n.isFinite then [{ rule := r, condition := some e, intensity, priority := n, specificity := e.clauseCount,
                          index, template }]
    else []
  | _, _ => []

def ruleFindings (helpers : Registry) (declared : List String) (template : String) (seen : List String)
    (index : Nat) (r : Rule) : Except Fault (Findings CompiledRule) := do
  let label := ruleLabel index r
  let priority ← numberCauses label "priority" r.priority
  let intensity ← numberCauses label "intensity" r.intensity
  let animation ← animationCauses label r.animation
  let (conditionCauses, condition) := conditionFindings helpers declared label r.condition
  let (intensityCauses, intensityExpr) := intensityFindings helpers declared label r.intensityExpression
  let under (rule : String) (causes : List Issue.Cause) : List Issue :=
    causes.map fun cause => { cause, ruleId := some rule }
  return {
    issues := identityIssues seen index r
      ++ under label (priority ++ intensity ++ groupCauses label r.group ++ switchCauses label r.enabled)
      ++ under r.id animation ++ under label (conditionCauses ++ intensityCauses)
    parts := compileRule template index r condition intensityExpr
    nodes := nodesOf condition + nodesOf intensityExpr }

/-- Findings on rules from position `index` on; `seen` holds the labels before it. -/
def rulesFrom (helpers : Registry) (declared : List String) (template : String) :
    (seen : List String) → (index : Nat) → List Rule → Except Fault (Findings CompiledRule)
  | _, _, [] => .ok {}
  | seen, index, r :: rest => do
    let head ← ruleFindings helpers declared template seen index r
    let tail ← rulesFrom helpers declared template (ruleLabel index r :: seen) (index + 1) rest
    return head.followedBy tail

/-! ## Templates -/

/-- Checks a template and compiles its parts. -/
def analyze (helpers : Registry) (t : Template) : Except Fault CompiledTemplate := do
  let declared := t.declarations.map Variable.name
  let computed := variablesFrom helpers declared [] 0 t.declarations
  let rules ← rulesFrom helpers declared t.id [] 0 t.rules
  let unnamed : List Issue := if t.id.isEmpty then [⟨.noTemplateId, none, none⟩] else []
  let unruled : List Issue := if t.rules.isEmpty then [⟨.noRules t.id, none, none⟩] else []
  return {
    id := t.id
    version := t.version
    rules := CompiledRule.sorted (rules.parts.filter fun r => r.rule.enabled.truthy)
    declarations := computed.parts
    issues := unnamed ++ computed.issues ++ rules.issues ++ unruled
    complexity := .ofNodes (computed.nodes + rules.nodes : Nat) }

/-- Compiles a template. Data of another shape compile to their id, their version and the reason. -/
def compile (helpers : Registry) (source : TemplateSource) : Except Fault CompiledTemplate := do
  let (id, version) ← source.identity
  match source.expect with
  | .ok t => analyze helpers t
  | .error f => if f.ofShape then return { id, version, issues := [⟨.unreadable f, none, none⟩] } else throw f

/-- What validation reports. -/
structure Report where
  issues : List Issue
  complexity : Complexity

namespace Report

def errors (r : Report) : List Issue := r.issues.filter Issue.isError

def warnings (r : Report) : List Issue := r.issues.filter fun i => !i.isError

def isValid (r : Report) : Bool := r.errors.isEmpty

/-- The report on a template about which nothing can be said but that it fails. -/
def failed (cause : Issue.Cause) : Report := ⟨[⟨cause, none, none⟩], .high⟩

end Report

/-- Validates a template without keeping anything. -/
def validate (helpers : Registry) (source : TemplateSource) : Except Fault Report :=
  match source.expect with
  | .error f => if f.ofShape then .ok (.failed (.unreadable f)) else .error f
  | .ok t => do
    let compiled ← analyze helpers t
    return ⟨compiled.issues, compiled.complexity⟩

end Template
end CaptionAnimation
