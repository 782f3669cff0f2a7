import CaptionAnimation.Selection.Session

/-! # Results as maps

The results of a session as plain maps for the renderer. -/
namespace CaptionAnimation

/-- A map with text keys. -/
def Value.record (fields : List (String × Value)) : Value := .map (fields.map fun (k, v) => (.text k, v))

def Value.texts (items : List String) : Value := .list (items.map .text)

def RuleStats.toMap (s : RuleStats) : Value :=
  .record [("evaluations", .int s.evaluations), ("matches", .int s.matched), ("errors", .int s.errors)]

/-- Statistics by template and rule. -/
def Statistics.toMap (s : Statistics) : Value :=
  .record (s.templates.map fun t => (t, .record ((s.rulesOf t).map fun (rule, stats) => (rule, stats.toMap))))

def Applied.toMap (a : Applied) : Except Fault Value := do
  return .record [("ruleId", .text a.rule.id), ("wordId", .text a.wordId), ("animation", ← a.animation.toMap),
    ("matchStrength", .float a.strength)]

/-- The animation of a winner at its strength. -/
def Winner.toMap (w : Winner) : Except Fault Value := do
  let a := w.rule.rule.animation
  let params ← if a.params.truthy then a.params.toEntries else pure []
  return .record [("pluginName", a.plugin), ("params", .map params), ("timing", ← a.schedule.toMap),
    ("intensity", .float w.strength), ("ruleId", .text w.rule.id)]

def WordSelection.toMap (s : WordSelection) : Except Fault Value := do
  return .record [("wordId", .text s.wordId), ("animations", .list (← s.winners.mapM Winner.toMap)),
    ("appliedRuleIds", .texts (s.winners.map fun w => w.rule.id))]

def Counters.toMap (c : Counters) : Value :=
  .record [("rulesEvaluated", .int c.rulesEvaluated), ("animationsApplied", .int c.animationsApplied),
    ("wordsProcessed", .int c.wordsProcessed), ("wordsSkipped", .int c.wordsSkipped)]

def Application.toMap (a : Application) : Except Fault Value := do
  let applied ← a.applied.mapM Applied.toMap
  let selections ← a.selections.mapM fun words => words.mapM WordSelection.toMap
  return .record ([("success", .bool a.success), ("appliedRules", .list applied), ("errors", .texts a.errors),
    ("warnings", .texts a.warnings), ("performance", a.counters.toMap), ("completed", .bool a.completed)]
    ++ (selections.map fun words => ("debug", Value.list words)).toList)

def Template.Report.toMap (r : Report) : Value :=
  .record [("isValid", .bool r.isValid), ("errors", .texts (r.errors.map Issue.message)),
    ("warnings", .texts (r.warnings.map Issue.message)), ("estimatedComplexity", .text r.complexity.name)]

/-- The caches and statistics of a session. -/
def Session.toMap (s : Session) : Value :=
  .record [("compiledTemplates", .int s.templates.length), ("cachedVariables", .int s.values.length),
    ("templateCacheHits", .int s.templates.hits), ("templateCacheMisses", .int s.templates.misses),
    ("variableCacheHits", .int s.values.hits), ("variableCacheMisses", .int s.values.misses),
    ("ruleStats", s.ledger.statistics.toMap)]

end CaptionAnimation
