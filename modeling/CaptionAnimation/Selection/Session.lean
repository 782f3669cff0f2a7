import CaptionAnimation.Selection.Run
import CaptionAnimation.Selection.Variables
import CaptionAnimation.Template.Validation

/-! # Sessions

A session applies templates to transcripts, one call after the other, and keeps what later calls can use: compiled
templates, values of variables, rule statistics. Every call answers; nothing that goes wrong in a call breaks the
session. -/
namespace CaptionAnimation

structure Session where
  settings : Settings
  helpers : Registry
  templates : Recent (String × Option String) CompiledTemplate
  values : VariableCache
  ledger : Ledger := {}

namespace Transcript

/-- A finished transcript, or one read from a map. -/
def expect : Value → Except Fault Transcript
  | .transcript t => .ok t
  | v => if v.entries?.isSome then ofValue v else .error (.expectedAudio v.typeName)

end Transcript

namespace Session

/-- A new session; sizes of the caches that are zero or missing are those of the settings. -/
def new (settings : Settings) (helpers : Registry) (templateCacheSize variableCacheSize : Option Int := none) :
    Except Fault Session := do
  let size (given : Option Int) (default : Int) : Int :=
    match given with
    | none | some 0 => default
    | some n => n
  let templates ← Recent.ofSize (size templateCacheSize settings.templateCacheSize)
  let values ← Recent.ofSize (size variableCacheSize settings.variableCacheSize)
  return { settings, helpers, templates, values }

/-- Compiles a template, or finds it among the kept ones when it has an id. -/
def compiled (s : Session) (t : Template) (useCache : Bool) : Session × Except Fault CompiledTemplate :=
  if !useCache || t.id.isEmpty then (s, Template.analyze s.helpers t)
  else
    match s.templates.find t.key with
    | (some found, templates) => ({ s with templates }, .ok found)
    | (none, templates) =>
      match Template.analyze s.helpers t with
      | .ok c => ({ s with templates := templates.set t.key c }, .ok c)
      | .error f => ({ s with templates }, .error f)

/-- Validates a template; the session does not change. -/
def validate (s : Session) (source : TemplateSource) : Template.Report :=
  match Template.validate s.helpers source with
  | .ok report => report
  | .error f => .failed (.brokenOff f)

/-- Applies a compiled template that has no errors. -/
def applyCompiled (s : Session) (c : CompiledTemplate) (t : Transcript) (o : Options) :
    Session × Except Fault Application :=
  let caching := o.caching.truthy
  let (run, outcome) := VariableRun.compute s.helpers c t (if caching then some s.values else none)
  let s := { s with
    values := run.cache.getD s.values
    ledger := { s.ledger with evaluations := s.ledger.evaluations + run.evaluated } }
  match outcome, o.filterRules c.rules with
  | .error f, _ | .ok (), .error f => (s, .error f)
  | .ok (), .ok rules =>
    let course : Course := { helpers := s.helpers, transcript := t, bindings := run.values, rules, options := o }
    let (ledger, result) := course.run s.ledger run.warnings
    ({ s with ledger }, result)

/-- Applies a template that has been read. -/
def applyRead (s : Session) (t : Template) (audio : Value) (o : Options) :
    Session × Except Fault Application :=
  match s.compiled t o.caching.truthy with
  | (s, .error f) => (s, .error f)
  | (s, .ok c) =>
    if !c.isValid then
      (s, .ok (.refused (c.errors.map Issue.message) ["Template " ++ t.id ++ " has validation errors"]))
    else
      match Transcript.expect audio with
      | .error f => (s, .error f)
      | .ok transcript => s.applyCompiled c transcript.placed o

/-- The answer to what is no template. Something with an id is looked for among the compiled templates first. -/
def refuseStranger (data : Value) (o : Options) : Except Fault Application :=
  match data.id? with
  | none => .error (.noField data.typeName "id")
  | some id =>
    if o.caching.truthy && id.truthy then .error (.noField data.typeName "cache_key")
    else do
      let reason := Issue.Cause.unreadable (.expectedTemplate data.typeName)
      return .refused [reason.message] ["Template " ++ (← id.plain) ++ " has validation errors"]

/-- Applies a template to a transcript. What keeps the call from running is an error of its result. -/
def apply (s : Session) (template : TemplateSource) (audio : Value) (options : OptionsSource) :
    Session × Application :=
  let failed (f : Fault) : Application := .refused ["Template application failed: " ++ f.message] []
  match options.read s.settings with
  | .error f => (s, failed f)
  | .ok options =>
    match template.stranger?, template.read, options with
    | none, .error f, _ => (s, .refused [(Issue.Cause.unreadable f).message] [])
    | none, .ok t, .ok o =>
      match s.applyRead t audio o with
      | (s, .ok a) => (s, a)
      | (s, .error f) => (s, failed f)
    | some data, _, .ok o =>
      match refuseStranger data o with
      | .ok a => (s, a)
      | .error f => (s, failed f)
    | _, _, .error f => (s, failed f)

/-- Selects the animations of a single word, from the rules that the options admit. -/
def selectWord (s : Session) (c : CompiledTemplate) (context : Context) (o : Options) :
    Session × Except Fault (WordSelection × Verdict) :=
  match o.filterRules c.rules with
  | .error f => (s, .error f)
  | .ok rules =>
    match s.ledger.judge { context, helpers := s.helpers } rules with
    | (ledger, .ok v) => ({ s with ledger }, .ok (⟨context.wordId.getD "", v.winners⟩, v))
    | (ledger, .error f) => ({ s with ledger }, .error f)

/-- Forgets compiled templates, values of variables and statistics. -/
def clear (s : Session) : Session :=
  { s with templates := s.templates.clear, values := s.values.clear
           ledger := { s.ledger with statistics := [] } }

end Session
end CaptionAnimation
