import CaptionAnimation.Evaluation.Context
import CaptionAnimation.Evaluation.Operators
import CaptionAnimation.Expression.Parser
import CaptionAnimation.Helper.Registry

/-! # Evaluating expressions

The value of a tree in a context. Chains of logical operators, chains of binary operators and chains of accesses are
each walked down their left side; the links met on the way wait in a list and are applied to the value of the chain's
base, so that a long chain needs no deep recursion. The left part always comes first, and the first part that fails
decides the error. -/
namespace CaptionAnimation.Evaluation

open Expression

abbrev Outcome := Except Failure Value

/-- Completes the value of a part to the value of the whole. -/
abbrev Link := Value → Outcome

/-- What evaluation depends on besides the tree. -/
structure Scope where
  context : Context
  helpers : Registry

namespace Scope

/-- The error of node `e` for a cause; it quotes the node's canonical source. -/
def blame (s : Scope) (e : Expr) (cause : EvaluationError.Cause) : Outcome :=
  match e.source with
  | .ok text => .error (.evaluation ⟨cause, "", some text, some s.context.location⟩)
  | .error f => .error (.fault f)

/-- The outcome of an operation at node `e`. -/
def settle (s : Scope) (e : Expr) : Operation → Outcome
  | .ok v => .ok v
  | .error (.blame cause) => s.blame e cause
  | .error (.fault f) => .error (.fault f)

/-- Faults of helpers that become errors of the expression. -/
def absorbs (f : Fault) : Bool :=
  f.category matches .type | .value | .overflow | .division

/-- The result of a helper called at node `e`. -/
def settleCall (s : Scope) (e : Expr) : Except Fault Value → Outcome
  | .ok v => .ok v
  | .error f => if absorbs f then s.blame e (.refused f) else .error (.fault f)

/-- The value of a name at node `e`. -/
def root (s : Scope) (e : Expr) (name : String) : Outcome :=
  match s.context.root name with
  | .ok v => .ok v
  | .error f => s.blame e (.refused f)

end Scope

/-- The kinds of chains that are walked without recursion. -/
inductive Chain where
  | logical
  | binary
  | access
deriving DecidableEq, Repr

/-- Walks on down a chain of one kind. The links that wait join it when they belong to the same chain; otherwise they
wait for its value. -/
def Chain.join (kind : Chain) (current : Option Chain) (links : List Link) (walk : List Link → Outcome) : Outcome :=
  if current = some kind then walk links else applyAll (walk []) links

mutual

/-- The value of a tree, completed by the links that wait for it, which belong to the chain being walked. -/
def evalThen (s : Scope) : Expr → Option Chain → List Link → Outcome
  | .logical _ op left right, current, links =>
    Chain.logical.join current links fun links =>
      evalThen s left (some .logical)
        ((fun v => if needsRight op v then evalThen s right none [] else .ok v) :: links)
  | .binary pos op left right, current, links =>
    Chain.binary.join current links fun links =>
      evalThen s left (some .binary)
        ((fun v => do
          let w ← evalThen s right none []
          s.settle (.binary pos op left right) (binaryOp op v w)) :: links)
  | .member pos obj name guarded, current, links =>
    Chain.access.join current links fun links =>
      evalThen s obj (some .access)
        ((fun v => s.settle (.member pos obj name guarded) (memberOp v name guarded)) :: links)
  | .index pos obj key guarded, current, links =>
    Chain.access.join current links fun links =>
      evalThen s obj (some .access)
        ((fun v =>
          if guarded && (v matches .null) then .ok .null
          else do
            let k ← evalThen s key none []
            s.settle (.index pos obj key guarded) (indexOp v k)) :: links)
  | .literal _ value, _, links => applyAll (.ok value) links
  | .name pos name, _, links => applyAll (s.root (.name pos name) name) links
  | .array _ items, _, links => applyAll (do return .list (← evalAll s items)) links
  | .prefixed pos op operand, _, links =>
    applyAll (do s.settle (.prefixed pos op operand) (prefixOp op (← evalThen s operand none []))) links
  | .conditional _ test yes no, _, links =>
    applyAll (do if (← evalThen s test none []).truthy then evalThen s yes none [] else evalThen s no none []) links
  | .call pos name args, _, links =>
    applyAll
      (match s.helpers.find? name with
        | none => s.blame (.call pos name args) (.unknownHelper name)
        | some helper =>
          if helper.accepts args.length then do
            s.settleCall (.call pos name args) (helper.run (← evalAll s args))
          else s.blame (.call pos name args) (.wrongArity name helper.arity args.length))
      links
  | .unknown pos, _, links => applyAll (s.blame (.unknown pos) .unknownNode) links

/-- The values of trees, from left to right. -/
def evalAll (s : Scope) : List Expr → Except Failure (List Value)
  | [] => .ok []
  | e :: es => do return (← evalThen s e none []) :: (← evalAll s es)

end

/-- The value of a tree. -/
def eval (s : Scope) (e : Expr) : Outcome := evalThen s e none []

/-- Writes the evaluated source into an error that does not have it yet: the text it was given, or otherwise the
canonical source of the tree. -/
def withSource (e : Expr) (source : Option String) : Outcome → Outcome
  | .error (.evaluation err) =>
    if err.expression.isEmpty then
      match source with
      | some text => .error (.evaluation { err with expression := text })
      | none =>
        match e.source with
        | .ok text => .error (.evaluation { err with expression := text })
        | .error f => .error (.fault f)
    else .error (.evaluation err)
  | outcome => outcome

/-- Evaluates a tree; `source` is the text it was read from, when known. -/
def evaluate (s : Scope) (e : Expr) (source : Option String) : Outcome := withSource e source (eval s e)

/-- Reads and evaluates an expression; anything but a text is no expression. -/
def evaluateText (s : Scope) : Value → Outcome
  | .text source =>
    match parse source with
    | .ok e => evaluate s e (some source)
    | .error err => .error (.malformed err)
  | v => .error (.malformed ⟨.notText v.typeName, "", 0⟩)

/-- Whether a condition holds. -/
def holds (outcome : Outcome) : Except Failure Bool := outcome.map Value.truthy

end CaptionAnimation.Evaluation
