import CaptionAnimation.Evaluation.Failure
import CaptionAnimation.Expression.Source
import CaptionAnimation.Number.Arithmetic
import CaptionAnimation.Text.Search
import CaptionAnimation.Value.Field

/-! # What operators compute

Each operator on values that are already there, without any coercion. A refusal is either a cause to be blamed on
the node or a fault of the data. -/
namespace CaptionAnimation.Evaluation

open Expression

/-- A refusal: a cause that the node takes the blame for, or a fault that passes through. -/
inductive Refusal where
  | blame (cause : EvaluationError.Cause)
  | fault (f : Fault)

abbrev Operation := Except Refusal Value

def refuse (cause : EvaluationError.Cause) : Operation := .error (.blame cause)

def compareOp (op : BinaryOp) (number : Number → Number → Bool) (text : String → String → Bool) :
    Value → Value → Operation
  | .number a, .number b => .ok (.bool (number a b))
  | .text s, .text t => .ok (.bool (text s t))
  | a, b => refuse (.incomparable a.kind op.spelling b.kind)

/-- Substring, membership in a list, or key of a map. -/
def withinOp (left right : Value) : Operation :=
  match right with
  | .text whole =>
    match left with
    | .text part => .ok (.bool (Text.occursIn part.toList whole.toList))
    | _ => refuse (.notInText left.kind)
  | .list items | .tuple items => .ok (.bool (items.any left.equal))
  | .map entries | .readOnly entries =>
    match left.unkeyable with
    | some _ => refuse (.notMapKey left.kind)
    | none => .ok (.bool (Entries.find? entries left).isSome)
  | _ => refuse (.notContainer right.kind)

/-- The numeric meaning of an operator. An operator that no source produces takes the remainder. -/
def numericOp : BinaryOp → Number → Number → Except Fault Number
  | .add => Number.add
  | .subtract => Number.sub
  | .multiply => Number.mul
  | .divide => Number.div
  | _ => Number.mod

def arithmeticOp (op : BinaryOp) : Value → Value → Operation
  | .number a, .number b =>
    if (op matches .divide | .remainder) && b.isZero then refuse .divisionByZero
    else
      match numericOp op a b with
      | .ok n => .ok (.number n)
      | .error f => if f.category = .overflow then refuse (.overflow op.spelling) else .error (.fault f)
  | a, b => refuse (.notApplicable op.spelling a.kind b.kind)

def addOp : Value → Value → Operation
  | .text s, .text t => .ok (.text (s ++ t))
  | a, b => arithmeticOp .add a b

def binaryOp (op : BinaryOp) (left right : Value) : Operation :=
  match op with
  | .equal => .ok (.bool (left.equal right))
  | .notEqual => .ok (.bool !(left.equal right))
  | .less => compareOp op Number.lt (fun s t => decide (s < t)) left right
  | .lessEqual => compareOp op Number.le (fun s t => decide (s ≤ t)) left right
  | .greater => compareOp op (fun a b => b.lt a) (fun s t => decide (t < s)) left right
  | .greaterEqual => compareOp op (fun a b => b.le a) (fun s t => decide (t ≤ s)) left right
  | .within => withinOp left right
  | .add => addOp left right
  | op => arithmeticOp op left right

def prefixOp (op : PrefixOp) (v : Value) : Operation :=
  match op, v with
  | .not, v => .ok (.bool !v.truthy)
  | .negate, .number n => .ok (.number n.neg)
  | _, .number n => .ok (.number n)
  | op, v => refuse (.prefixOperand op.spelling v.kind)

/-- The item at an index; negative indexes count from the end. -/
def itemAt (items : List Value) (index : Int) : Option Value :=
  if index < 0 then items[(items.length + index).toNat]?.filter fun _ => 0 ≤ items.length + index
  else items[index.toNat]?

def indexItems (items : List Value) (key : Value) : Operation :=
  match key with
  | .number (.int i) =>
    match itemAt items i with
    | some v => .ok v
    | none =>
      match Number.intText i with
      | .ok _ => refuse (.outOfRange i)
      | .error f => .error (.fault f)
  | _ => refuse (.indexNotInteger key.kind)

/-- A field by name; a missing one is `none`. -/
def fieldOp (v : Value) (name : String) : Except Refusal (Option Value) :=
  match v.field? name with
  | .ok found => .ok found
  | .error f => .error (.fault f)

/-- `obj[key]`. -/
def indexOp (obj key : Value) : Operation :=
  match obj with
  | .list items | .tuple items => indexItems items key
  | .text s => indexItems (s.toList.map fun c => .text (String.singleton c)) key
  | _ =>
    match key with
    | .text name => do
      match ← fieldOp obj name with
      | some v => return v
      | none => refuse (.unknownField name obj.kind)
    | _ => refuse (.notIndexable obj.kind key.kind)

/-- `obj.name`, or `obj?.name` when guarded: then a missing field, or any field of null, is null. -/
def memberOp (obj : Value) (name : String) (guarded : Bool) : Operation :=
  match obj with
  | .null => if guarded then .ok .null else refuse (.readOfNull name)
  | _ => do
    match ← fieldOp obj name with
    | some v => return v
    | none => if guarded then return .null else refuse (.unknownField name obj.kind)

/-- Whether a logical operator needs its right operand after this left one. -/
def needsRight (op : LogicalOp) (left : Value) : Bool :=
  match op with
  | .and => left.truthy
  | .or => !left.truthy
  | _ => left matches .null

end CaptionAnimation.Evaluation
