import CaptionAnimation.Value.Conversion

/-! # Templates

What an author declares: rules that attach animations to words, and variables computed once per transcript. Fields
stay as they were written until the template is validated. -/
namespace CaptionAnimation

/-- When an animation runs, relative to its word. -/
structure Timing where
  /-- Usually a pair of texts: start and end. -/
  offset : Value := .tuple [.text "0", .text "100%"]
  duration : Value := .null
  easing : Value := .null

/-- The timing of an animation, or what stands in its place. -/
inductive Schedule where
  | timed (timing : Timing)
  | malformed (value : Value)

structure Animation where
  /-- The name of the plugin that draws it. -/
  plugin : Value := .text ""
  params : Value := .map []
  schedule : Schedule := .timed {}

/-- An animation for the words that meet a condition. -/
structure Rule where
  id : String
  condition : Value
  animation : Animation
  priority : Value
  intensity : Value
  /-- Replaces the declared intensity where it has a value; null when there is none. -/
  intensityExpression : Value
  /-- Rules compete only with rules of the same group. -/
  group : Value
  enabled : Value
  name : Value
  description : Value

structure Variable where
  name : String
  expression : Value
  /-- Whether the value is kept for further runs over the same transcript. -/
  cached : Bool := false
  description : Value := .null

structure Template where
  id : String
  rules : List Rule
  /-- The variables in the order of their declaration. -/
  declarations : List Variable
  name : Value
  version : Option String
  metadata : Entries

namespace Timing

/-- The timing as a map; details that are null are left out. -/
def toMap (t : Timing) : Except Fault Value :=
  match t.offset.elements? with
  | none => .error (.notIterable t.offset.typeName)
  | some items =>
    let detail (key : String) : Value → Entries
      | .null => []
      | v => [(.text key, v)]
    .ok (.map ([(.text "offset", .list items)] ++ detail "duration" t.duration ++ detail "easing" t.easing))

end Timing

def Schedule.toMap : Schedule → Except Fault Value
  | .timed t => t.toMap
  | .malformed v => .error (.noField v.typeName "to_dict")

/-- The animation as a map for the renderer. -/
def Animation.toMap (a : Animation) : Except Fault Value := do
  let params ← a.params.toEntries
  let timing ← a.schedule.toMap
  return .map [(.text "pluginName", a.plugin), (.text "params", .map params), (.text "timing", timing)]

/-- What tells compiled templates apart. -/
def Template.key (t : Template) : String × Option String := (t.id, t.version)

end CaptionAnimation
