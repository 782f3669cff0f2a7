import CaptionAnimation.Template.Basic
import CaptionAnimation.Text.Search
import CaptionAnimation.Transcript.Reading

/-! # Reading templates

Templates from plain maps. Keys may be written in camel case or with underscores. Parts that are finished already are
taken as they are. -/
namespace CaptionAnimation

namespace Value

/-- The entry under the first of some keys that is there, also of values that only answer whether they hold a key. -/
def pick (v : Value) (keys : List String) : Except Fault (Option Value) :=
  match v with
  | map entries | readOnly entries => .ok (keys.findSome? (Entries.get? entries))
  | text s =>
    if keys.any fun key => Text.occursIn key.toList s.toList then .error (.textIndex "str") else .ok none
  | list items | tuple items =>
    if keys.any fun key => items.any (same (text key)) then .error (.listIndex v.typeName "str") else .ok none
  | v => .error (.notContainer v.typeName)

/-- The first of some keys that is there. -/
def firstOf (entries : Entries) (keys : List String) : Option Value := keys.findSome? (Entries.get? entries)

end Value

namespace Timing

def ofValue (v : Value) : Except Fault Timing := do
  if !v.truthy then return {}
  let entries ← v.fields
  let offset :=
    match Entries.get? entries "offset" with
    | none => ({} : Timing).offset
    | some (.list items) => .tuple items
    | some other => other
  return { offset, duration := Value.getOrNull entries "duration", easing := Value.getOrNull entries "easing" }

end Timing

namespace Animation

def ofValue (v : Value) : Except Fault Animation := do
  let plugin ← v.pick ["pluginName", "plugin_name"]
  let entries ← v.fields
  let params ← Value.toEntriesOrEmpty (Entries.get? entries "params")
  let timing ← Timing.ofValue (Value.getOrNull entries "timing")
  return { plugin := plugin.getD (.text ""), params := .map params, schedule := .timed timing }

/-- The animation of a rule; anything but a map declares none. -/
def ofField : Value → Except Fault Animation
  | .map entries => ofValue (.map entries)
  | .readOnly entries => ofValue (.map entries)
  | _ => .ok {}

end Animation

namespace Rule

/-- A rule from its entries and its animation. -/
def ofEntries (entries : Entries) (animation : Animation) : Except Fault Rule := do
  let get (key : String) (default : Value) : Value := (Entries.get? entries key).getD default
  let id ← ((Entries.get? entries "id").getD (.text "")).plain
  return {
    id, animation
    condition := get "condition" (.text "")
    priority := get "priority" (.int 0)
    intensity := get "intensity" (.float 1.0)
    intensityExpression := (Value.firstOf entries ["intensityExpression", "intensity_expression"]).getD .null
    group := (Value.firstOf entries ["conflictGroup", "conflict_group"]).getD (.text "default")
    enabled := get "enabled" (.bool true)
    name := get "name" .null
    description := get "description" .null }

def ofValue (v : Value) : Except Fault Rule := do
  let entries ← v.fields
  ofEntries entries (← Animation.ofField (Value.getOrNull entries "animation"))

end Rule

namespace Variable

/-- A variable from its name and either its expression or a map. -/
def ofData (name : String) : Value → Except Fault Variable
  | .text expression => .ok { name, expression := .text expression }
  | v => do
    let entries ← v.fields
    return {
      name
      expression := (Entries.get? entries "expression").getD (.text "")
      cached := (Value.getOrNull entries "cached").truthy
      description := Value.getOrNull entries "description" }

/-- An item of a list of variables, which names itself. -/
def ofItem (v : Value) : Except Fault Variable := do
  let entries ← v.fields
  ofData (← ((Entries.get? entries "name").getD (.text "")).plain) v

end Variable

/-- Data of a rule: plain, plain but for a finished animation, or finished. -/
inductive RuleSource where
  | plain (data : Value)
  | animated (entries : Entries) (animation : Animation)
  | finished (rule : Rule)

def RuleSource.read : RuleSource → Except Fault Rule
  | plain data => Rule.ofValue data
  | animated entries animation => Rule.ofEntries entries animation
  | finished rule => .ok rule

/-- Data of a variable in a list: plain or finished. -/
inductive VariableSource where
  | plain (data : Value)
  | finished (declaration : Variable)

def VariableSource.read : VariableSource → Except Fault Variable
  | plain data => Variable.ofItem data
  | finished declaration => .ok declaration

/-- Data of a template: plain, a map with lists of parts of which some are finished, or finished. -/
inductive TemplateSource where
  | plain (data : Value)
  | assembled (entries : Entries) (rules : Option (List RuleSource)) (declarations : Option (List VariableSource))
  | finished (template : Template)

namespace Template

def ruleSources (entries : Entries) : Except Fault (List RuleSource) :=
  match Entries.get? entries "rules" with
  | none => .ok []
  | some v =>
    if !v.truthy then .ok []
    else match v.items? with
      | some items => .ok (items.map .plain)
      | none => .error .templateRules

/-- Variables are a map from names, in order, or a list. -/
def readVariables (entries : Entries) : Except Fault (List Variable) :=
  match Entries.get? entries "variables" with
  | none => .ok []
  | some v =>
    if !v.truthy then .ok []
    else match v with
      | .map declared | .readOnly declared =>
        declared.mapM fun (name, data) => do Variable.ofData (← name.plain) data
      | .list items | .tuple items => items.mapM Variable.ofItem
      | _ => .error .templateVariables

/-- Everything false counts as no id. -/
def readId (entries : Entries) : Except Fault String :=
  match Entries.get? entries "id" with
  | none => .ok ""
  | some v => if v.truthy then v.plain else .ok ""

def readVersion (entries : Entries) : Except Fault (Option String) := Value.givenText? entries "version"

/-- A template from its entries; rules or variables given apart replace those of the entries. -/
def assemble (entries : Entries) (rules : Option (List RuleSource)) (declarations : Option (List VariableSource)) :
    Except Fault Template := do
  let sources ← rules.elim (ruleSources entries) .ok
  let declarations ← declarations.elim (readVariables entries) fun parts => parts.mapM VariableSource.read
  let id ← readId entries
  let rules ← sources.mapM RuleSource.read
  let version ← readVersion entries
  let metadata ← Value.toEntriesOrEmpty (Entries.get? entries "metadata")
  return { id, rules, declarations, name := Value.getOrNull entries "name", version, metadata }

def ofValue (v : Value) : Except Fault Template := do
  assemble (← v.fields) none none

end Template

namespace TemplateSource

/-- Reads a template; a value that is no map is refused by way of its missing fields. -/
def read : TemplateSource → Except Fault Template
  | plain data => Template.ofValue data
  | assembled entries rules declarations => Template.assemble entries rules declarations
  | finished template => .ok template

/-- Reads a template; anything but a map or a template is refused. -/
def expect : TemplateSource → Except Fault Template
  | plain data => if data.entries?.isSome then Template.ofValue data else .error (.expectedTemplate data.typeName)
  | source => source.read

/-- What is neither a map nor a template. -/
def stranger? : TemplateSource → Option Value
  | plain data => if data.entries?.isSome then none else some data
  | _ => none

/-- The id and version, which are known even when the rest cannot be read. -/
def identity : TemplateSource → Except Fault (String × Option String)
  | finished template => .ok template.key
  | assembled entries _ _ => do return (← Template.readId entries, ← Template.readVersion entries)
  | plain data =>
    match data.entries? with
    | some entries => do return (← Template.readId entries, ← Template.readVersion entries)
    | none => .ok ("", none)

end TemplateSource
end CaptionAnimation
