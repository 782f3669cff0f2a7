import CaptionAnimation.Settings
import CaptionAnimation.Template.Compiled
import CaptionAnimation.Template.Reading

/-! # Options

How a template is applied to a transcript. The limit of concurrency and the confidence threshold are checked when
options are made; the other fields are read when they are needed. -/
namespace CaptionAnimation

namespace Value

/-- The number that a value counts as in comparisons; booleans count as 0 and 1. -/
def comparable? : Value → Option Number
  | bool b => some (.int b.toNat)
  | number n => some n
  | _ => none

/-- What a value is compared as: a read-only map as the map it shows. -/
def comparedAs : Value → Value
  | readOnly entries => map entries
  | v => v

/-- The fault of comparing a double with a value that is no number. A read-only map is asked first, with the
sides swapped. -/
def unorderedWithDouble (operator swapped : String) (v : Value) : Fault :=
  match v with
  | readOnly _ => .unordered swapped v.comparedAs.typeName "float"
  | _ => .unordered operator "float" v.typeName

end Value

structure Options where
  caching : Value := .bool true
  /-- Accepted and checked; words are always taken one after the other. -/
  concurrency : Value := .int 100
  profiling : Value := .bool false
  /-- Whether the selection of every word is reported. -/
  debugInfo : Value := .bool false
  skipUnsure : Value := .bool true
  /-- Words below this confidence are skipped. -/
  threshold : Value
  /-- Only these rules take part, unless it is null. -/
  enabledRules : Value := .null
  disabledRules : Value := .null
  /-- The limit of time in milliseconds, unless it is null. -/
  deadline : Value := .null

namespace Options

/-- Refuses options out of bounds. -/
def check (o : Options) : Except Fault Options := do
  match o.concurrency.comparable? with
  | none => throw (.unordered "<" o.concurrency.comparedAs.typeName "int")
  | some n => if n.lt (.int 1) then throw .concurrencyTooSmall
  match o.threshold.comparable? with
  | none => throw (o.threshold.unorderedWithDouble "<=" ">=")
  | some n => if !((Number.int 0).le n && n.le (.int 1)) then throw .thresholdOutOfRange
  return o

/-- The options in force when none are given. -/
def standard (settings : Settings) : Except Fault Options :=
  check { threshold := .float settings.confidenceThreshold }

/-- What is given under the first of some keys that is there, unless it is null. -/
def given (v : Value) (keys : List String) (default : Value) : Except Fault Value := do
  match ← v.pick keys with
  | none | some .null => return default
  | some value => return value

/-- Options from a map; null and missing fields keep their defaults. -/
def ofValue (settings : Settings) (v : Value) : Except Fault Options := do
  if !v.truthy then return ← standard settings
  check {
    caching := ← given v ["enableCaching", "enable_caching"] (.bool true)
    concurrency := ← given v ["maxConcurrentEvaluations", "max_concurrent_evaluations"] (.int 100)
    profiling := ← given v ["enableProfiling", "enable_profiling"] (.bool false)
    debugInfo := ← given v ["collectDebugInfo", "collect_debug_info"] (.bool false)
    skipUnsure := ← given v ["skipLowConfidenceWords", "skip_low_confidence_words"] (.bool true)
    threshold := ← given v ["confidenceThreshold", "confidence_threshold"] (.float settings.confidenceThreshold)
    enabledRules := ← given v ["enabledRuleIds", "enabled_rule_ids"] .null
    disabledRules := ← given v ["disabledRuleIds", "disabled_rule_ids"] .null
    deadline := ← given v ["maxProcessingTimeMs", "max_processing_time_ms"] .null }

/-- The members of a set of ids. -/
def members (v : Value) : Except Fault (List Value) := do
  match v.elements? with
  | none => throw (.notIterable v.typeName)
  | some items =>
    match items.findSome? Value.unkeyable with
    | some kind => throw (.unhashable kind)
    | none => return items

/-- Whether a rule takes part. -/
def admits (o : Options) : Except Fault (CompiledRule → Bool) := do
  let enabled ← match o.enabledRules with
    | .null => pure none
    | v => some <$> members v
  let disabled ← if o.disabledRules.truthy then members o.disabledRules else pure []
  return fun r =>
    let named (ids : List Value) : Bool := ids.any (Value.same (.text r.id))
    enabled.all named && !named disabled

/-- The rules that take part. -/
def filterRules (o : Options) (rules : List CompiledRule) : Except Fault (List CompiledRule) := do
  return rules.filter (← o.admits)

/-- Whether a word is to be skipped for its low confidence. -/
def skips (o : Options) (w : Word) : Bool :=
  o.skipUnsure.truthy && o.threshold.comparable?.any fun n => (Number.double w.confidence).lt n

/-- Whether the limit of time is exceeded. A limit of zero or less is exceeded from the start; a run is taken to stay
within any greater one. -/
def overdue (o : Options) : Except Fault Bool :=
  match o.deadline with
  | .null => .ok false
  | v =>
    match v.comparable? with
    | some n => .ok (n.le (.int 0))
    | none => .error (v.unorderedWithDouble ">" "<")

end Options

/-- Options as a caller gives them. -/
inductive OptionsSource where
  | absent
  | data (v : Value)
  | finished (o : Options)

namespace OptionsSource

/-- Reads options. Data that is no map is passed over here and refused, with the inner fault, once a field of it is
needed. -/
def read (settings : Settings) : OptionsSource → Except Fault (Except Fault Options)
  | absent | data .null => do return .ok (← Options.standard settings)
  | finished o => .ok (.ok o)
  | data v =>
    if v.entries?.isSome then do return .ok (← Options.ofValue settings v)
    else .ok (.error (.noField v.typeName "enable_caching"))

end OptionsSource
end CaptionAnimation
