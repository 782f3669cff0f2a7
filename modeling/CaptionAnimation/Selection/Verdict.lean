import CaptionAnimation.Evaluation.Evaluator
import CaptionAnimation.Selection.Statistics
import CaptionAnimation.Template.Compiled
import CaptionAnimation.Value.Display

/-! # Verdicts

The rules that win a word. Every rule is tested; those that match are put in order of precedence; the first of each
conflict group is selected, with the strength it has at this word. A rule whose condition fails does not match and is
reported. -/
namespace CaptionAnimation

/-- The outcome of testing a condition. -/
inductive Test where
  | holds
  | fails
  | broken (message : String)

namespace Test

def isHolds : Test → Bool
  | holds => true
  | _ => false

def stats : Test → RuleStats
  | holds => ⟨1, 1, 0⟩
  | fails => ⟨1, 0, 0⟩
  | broken _ => ⟨1, 0, 1⟩

end Test

structure RuleError where
  rule : String
  message : String

/-- A rule that won its group, and how strongly it applies. -/
structure Winner where
  rule : CompiledRule
  strength : Float

/-- Several rules of one group matched; the first of them won. -/
structure Conflict where
  group : Value
  winner : String
  rules : List String

structure Verdict where
  winners : List Winner
  /-- The ids of all rules that matched, in order of precedence. -/
  matched : List String
  conflicts : List Conflict
  errors : List RuleError
  stats : RuleStats

namespace CompiledRule

/-- Tests the condition. -/
def test (r : CompiledRule) (s : Evaluation.Scope) : Except Fault Test :=
  match r.condition with
  | none => .ok (.broken ("Rule '" ++ r.id ++ "' has no compiled condition"))
  | some e =>
    match Evaluation.holds (Evaluation.evaluate s e r.rule.condition.text?) with
    | .ok true => .ok .holds
    | .ok false => .ok .fails
    | .error (.fault f) => .error f
    | .error failure => .ok (.broken failure.message)

/-- The number of evaluations that a test costs. -/
def testCost (r : CompiledRule) : Nat := if r.condition.isSome then 1 else 0

/-- Whether two rules are of the same conflict group. -/
def competes (a b : CompiledRule) : Bool := a.index == b.index || a.rule.group.same b.rule.group

/-- A number as a finite double. -/
def finite? : Value → Option Float
  | .number n =>
    match n.toFloat with
    | .ok x => if x.isFinite then some x else none
    | .error _ => none
  | _ => none

/-- The value of the intensity expression, when it is a finite number; otherwise the declared intensity and what went
wrong. -/
def strength (r : CompiledRule) (s : Evaluation.Scope) : Except Fault (Float × List RuleError) := do
  let declared ← r.rule.intensity.toFloat
  match r.intensity with
  | none => return (declared, [])
  | some e =>
    match Evaluation.evaluate s e r.rule.intensityExpression.text? with
    | .ok v =>
      match finite? v with
      | some x => return (x, [])
      | none =>
        let shown ← v.display
        return (declared, [⟨r.id, "intensity expression returned " ++ shown ++ ", expected a finite number"⟩])
    | .error (.fault f) => throw f
    | .error failure => return (declared, [⟨r.id, "intensity: " ++ failure.message⟩])

/-- The number of evaluations that the strength costs, unless the declared intensity is no number. -/
def strengthCost (r : CompiledRule) : Nat :=
  if r.intensity.isSome && (r.rule.intensity.toFloat matches .ok _) then 1 else 0

end CompiledRule

namespace Verdict

/-- Runs steps in order until one faults; adds up what the steps taken cost. -/
def runAll (step : α → Except Fault β) (cost : α → Nat) : List α → Nat × Except Fault (List β)
  | [] => (0, .ok [])
  | a :: rest =>
    match step a with
    | .error f => (cost a, .error f)
    | .ok b =>
      let (spent, tail) := runAll step cost rest
      (cost a + spent, tail.map (b :: ·))

/-- The rules that match, in order of precedence. -/
def ranked (tests : List (CompiledRule × Test)) : List CompiledRule :=
  CompiledRule.sorted ((tests.filter fun t => t.2.isHolds).map (·.1))

/-- The matches of a rule's group. -/
def rivals (ranked : List CompiledRule) (r : CompiledRule) : List CompiledRule := ranked.filter r.competes

/-- Whether a rule is the first of its group. -/
def leads (ranked : List CompiledRule) (r : CompiledRule) : Bool :=
  (rivals ranked r).head?.any fun first => first.index == r.index

def leaders (ranked : List CompiledRule) : List CompiledRule := ranked.filter (leads ranked)

/-- The groups in which several rules match. -/
def clashes (ranked : List CompiledRule) : List Conflict :=
  (leaders ranked).filterMap fun r =>
    let group := rivals ranked r
    if group.length > 1 then some ⟨r.rule.group, r.id, group.map CompiledRule.id⟩ else none

def testErrors (tests : List (CompiledRule × Test)) : List RuleError :=
  tests.filterMap fun (r, t) =>
    match t with
    | .broken message => some ⟨r.id, message⟩
    | _ => none

def totals (tests : List (CompiledRule × Test)) : RuleStats :=
  tests.foldl (fun acc t => acc.add t.2.stats) {}

end Verdict

/-- The counters that rules are judged under. -/
structure Ledger where
  statistics : Statistics := []
  /-- How many expressions were evaluated. -/
  evaluations : Nat := 0

namespace Ledger

/-- Judges the rules at one place. A fault of a condition leaves the statistics alone; later faults come after the
tests have been recorded. -/
def judge (l : Ledger) (s : Evaluation.Scope) (rules : List CompiledRule) : Ledger × Except Fault Verdict :=
  let (spent, tests) := Verdict.runAll (fun r => do return (r, ← r.test s)) CompiledRule.testCost rules
  let l := { l with evaluations := l.evaluations + spent }
  match tests with
  | .error f => (l, .error f)
  | .ok tests =>
    let outcomes := tests.map fun (r, t) => (RuleKey.mk r.template r.id, t.stats)
    let l := { l with statistics := l.statistics.recordAll outcomes }
    let ranked := Verdict.ranked tests
    match ranked.findSome? fun r => r.rule.group.unkeyable with
    | some kind => (l, .error (.unhashable kind))
    | none =>
      let leaders := Verdict.leaders ranked
      let (spent, strengths) := Verdict.runAll (fun r => r.strength s) CompiledRule.strengthCost leaders
      let l := { l with evaluations := l.evaluations + spent }
      match strengths with
      | .error f => (l, .error f)
      | .ok strengths =>
        (l, .ok {
          winners := (leaders.zip strengths).map fun (r, strength) => ⟨r, strength.1⟩
          matched := ranked.map CompiledRule.id
          conflicts := Verdict.clashes ranked
          errors := Verdict.testErrors tests ++ strengths.flatMap (·.2)
          stats := Verdict.totals tests })

end Ledger
end CaptionAnimation
