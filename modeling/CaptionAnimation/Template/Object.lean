import CaptionAnimation.Template.Basic

/-! # Templates as values

A template and its parts as objects, where a caller hands them in among other data. -/
namespace CaptionAnimation

def Timing.toObject (t : Timing) : Value :=
  .object "AnimationTiming" [("offset", t.offset), ("duration", t.duration), ("easing", t.easing)]

def Schedule.toObject : Schedule → Value
  | .timed t => t.toObject
  | .malformed v => v

def Animation.toObject (a : Animation) : Value :=
  .object "AnimationConfig" [("plugin_name", a.plugin), ("params", a.params), ("timing", a.schedule.toObject)]

def Rule.toObject (r : Rule) : Value :=
  .object "TemplateRule" [("id", .text r.id), ("condition", r.condition), ("animation", r.animation.toObject),
    ("priority", r.priority), ("intensity", r.intensity), ("intensity_expression", r.intensityExpression),
    ("conflict_group", r.group), ("enabled", r.enabled), ("name", r.name), ("description", r.description)]

def Variable.toObject (v : Variable) : Value :=
  .object "TemplateVariable" [("name", .text v.name), ("expression", v.expression), ("cached", .bool v.cached),
    ("description", v.description)]

def Template.toObject (t : Template) : Value :=
  .object "SubtitleTemplate" [("id", .text t.id), ("rules", .tuple (t.rules.map Rule.toObject)),
    ("variables", .tuple (t.declarations.map Variable.toObject)), ("name", t.name),
    ("version", .ofOption .text t.version), ("metadata", .map t.metadata)]

end CaptionAnimation
