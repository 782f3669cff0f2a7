import CaptionAnimation.Cache.Fingerprint
import CaptionAnimation.Cache.Recent
import CaptionAnimation.Evaluation.Evaluator
import CaptionAnimation.Template.Compiled
import CaptionAnimation.Value.Place

/-! # Computing variables

The variables of a template over a transcript, in the order of their declaration: each sees those before it. A
variable that fails is null and adds a warning. Values of variables marked for it are kept for further runs over the
same transcript. -/
namespace CaptionAnimation

/-- What a kept value belongs to. -/
structure VariableKey where
  template : String
  version : Option String
  name : String
  fingerprint : String
deriving DecidableEq, Repr

abbrev VariableCache := Recent VariableKey Value

/-- A count that tells the undefined numbers of a new run from those in kept values: how often the cache was asked
before, which was less when a value was kept. Zero when no kept value holds one. -/
def VariableCache.age (c : VariableCache) : Nat := if c.entries.any (·.2.holdsMade) then c.lookups else 0

/-- A computation of variables in progress. -/
structure VariableRun where
  values : Entries := []
  warnings : List String := []
  evaluated : Nat := 0
  cacheHits : Nat := 0
  /-- The cache, unless nothing is to be kept. -/
  cache : Option VariableCache := none
  /-- The age of the cache at the start. -/
  age : Nat := 0

namespace CompiledVariable

def name (v : CompiledVariable) : String := v.declaration.name

/-- The value of a variable where the variables before it have the given values. -/
def value (v : CompiledVariable) (helpers : Registry) (t : Transcript) (before : Entries) : Evaluation.Outcome :=
  let scope : Evaluation.Scope := { context := .forVariables t before, helpers }
  match v.expression with
  | some e => Evaluation.evaluate scope e v.declaration.expression.text?
  | none => Evaluation.evaluateText scope .null

end CompiledVariable

namespace VariableRun

/-- How many variables are done. -/
def done (run : VariableRun) : Nat := run.evaluated + run.cacheHits

/-- Gives a variable its value. -/
def assign (run : VariableRun) (name : String) (value : Value) : VariableRun :=
  { run with values := Entries.put (.text name) value run.values }

/-- Evaluates a variable and keeps its value in `cache` under `key`. -/
def evaluate (run : VariableRun) (helpers : Registry) (t : Transcript) (v : CompiledVariable)
    (keep : Value → VariableRun → VariableRun) : VariableRun × Except Fault Unit :=
  let run := { run with evaluated := run.evaluated + 1 }
  match v.value helpers t run.values with
  | .ok value =>
    let value := value.placed [run.done, run.age + 1]
    (keep value (run.assign v.name value), .ok ())
  | .error (.fault f) => (run, .error f)
  | .error failure =>
    let warning := "Failed to compute variable '" ++ v.name ++ "': " ++ failure.message
    ({ run.assign v.name .null with warnings := run.warnings ++ [warning] }, .ok ())

/-- Computes one variable, or finds its kept value. -/
def step (run : VariableRun) (helpers : Registry) (t : Transcript) (v : CompiledVariable) (key : VariableKey) :
    VariableRun × Except Fault Unit :=
  match if v.declaration.cached then run.cache else none with
  | none => run.evaluate helpers t v fun _ run => run
  | some cache =>
    match cache.find key with
    | (some value, cache) =>
      ({ run.assign v.name value with cache := some cache, cacheHits := run.cacheHits + 1 }, .ok ())
    | (none, cache) =>
      { run with cache := some cache }.evaluate helpers t v fun value run =>
        { run with cache := some (cache.set key value) }

/-- Computes variables in order until one faults. -/
def computeFrom (helpers : Registry) (template : CompiledTemplate) (t : Transcript) (fingerprint : String) :
    List CompiledVariable → VariableRun → VariableRun × Except Fault Unit
  | [], run => (run, .ok ())
  | v :: rest, run =>
    match run.step helpers t v ⟨template.id, template.version, v.name, fingerprint⟩ with
    | (run, .ok ()) => computeFrom helpers template t fingerprint rest run
    | (run, .error f) => (run, .error f)

/-- Computes the variables of a template over a transcript. -/
def compute (helpers : Registry) (template : CompiledTemplate) (t : Transcript) (cache : Option VariableCache) :
    VariableRun × Except Fault Unit :=
  let t := t.placed
  let start : VariableRun := { cache, age := cache.elim 0 VariableCache.age }
  if template.declarations.isEmpty then (start, .ok ())
  else
    match cache.elim (.ok "") fun _ => t.fingerprint with
    | .error f => (start, .error f)
    | .ok fingerprint => computeFrom helpers template t fingerprint template.declarations start

end VariableRun
end CaptionAnimation
