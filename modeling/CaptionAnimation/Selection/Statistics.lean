/-! # Rule statistics

How often each rule was evaluated, matched and failed, kept apart by template. -/
namespace CaptionAnimation

structure RuleStats where
  evaluations : Nat := 0
  matched : Nat := 0
  errors : Nat := 0
deriving DecidableEq, Repr

def RuleStats.add (a b : RuleStats) : RuleStats :=
  ⟨a.evaluations + b.evaluations, a.matched + b.matched, a.errors + b.errors⟩

/-- A rule of a template. -/
structure RuleKey where
  template : String
  rule : String
deriving DecidableEq, Repr

/-- Statistics in the order in which rules were first evaluated. -/
abbrev Statistics := List (RuleKey × RuleStats)

namespace Statistics

/-- Adds to the counts of one rule. -/
def record (key : RuleKey) (stats : RuleStats) : Statistics → Statistics
  | [] => [(key, stats)]
  | (k, s) :: rest => if k = key then (k, s.add stats) :: rest else (k, s) :: record key stats rest

/-- Adds the counts of several rules in order. -/
def recordAll (s : Statistics) (outcomes : List (RuleKey × RuleStats)) : Statistics :=
  outcomes.foldl (fun acc (key, stats) => record key stats acc) s

/-- The counts of a rule in one template, or summed over all templates that have it. -/
def lookup (s : Statistics) (rule : String) (template : Option String) : Option RuleStats :=
  match (s.filter fun (key, _) => key.rule == rule && template.all (· == key.template)).map (·.2) with
  | [] => none
  | found => some (found.foldl RuleStats.add {})

/-- The templates with counts, in the order of their first rule. -/
def templates (s : Statistics) : List String := (s.map fun (key, _) => key.template).eraseDups

/-- The rules of a template with their counts. -/
def rulesOf (s : Statistics) (template : String) : List (String × RuleStats) :=
  (s.filter fun (key, _) => key.template == template).map fun (key, stats) => (key.rule, stats)

end Statistics
end CaptionAnimation
