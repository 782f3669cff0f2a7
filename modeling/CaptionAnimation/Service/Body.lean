import CaptionAnimation.Service.Shape

/-! # Request bodies

The shapes of transcripts, templates and options in requests. Fields of rules are typed loosely: what they mean is
for validation to check. -/
namespace CaptionAnimation.Service

namespace Body

/-- A field of one spelling. -/
def field (name : String) (shape : Shape) (default : Option Value := none) :
    String × Option String × Shape × Option Value := (name, none, shape, default)

/-- A field with a second spelling. -/
def spelled (name other : String) (shape : Shape) (default : Option Value := none) :
    String × Option String × Shape × Option Value := (name, some other, shape, default)

/-- A text that may be null or missing. -/
def textOrNull (name : String) : String × Option String × Shape × Option Value :=
  field name (.optional .text) (some .null)

def emptyMap : Option Value := some (.map [])

/-- Fields that are not named here become features of the word. -/
def word : Shape :=
  .object true [field "text" .text, field "start" (.number []), field "end" (.number []),
    field "confidence" (.number []) (some (.float 1.0)), textOrNull "id", field "features" (.table .anything) emptyMap]

def segment : Shape :=
  .object false [field "words" (.list word) (some (.list [])), textOrNull "id",
    field "start" (.optional (.number [])) (some .null), field "end" (.optional (.number [])) (some .null),
    textOrNull "text", textOrNull "speaker", textOrNull "emotion", field "metadata" (.table .anything) emptyMap]

def transcript : Shape :=
  .object false [field "segments" (.list segment), field "metadata" (.table .anything) emptyMap, textOrNull "id"]

def defaultOffset : Value := .list [.text "0", .text "100%"]

def timing : Shape :=
  .object false [field "offset" (.list .anything) (some defaultOffset), textOrNull "duration", textOrNull "easing"]

def animation : Shape :=
  .object false [spelled "pluginName" "plugin_name" .text (some (.text "")),
    field "params" (.table .anything) emptyMap,
    field "timing" timing (some (.map [(.text "offset", defaultOffset)]))]

def rule : Shape :=
  .object false [field "id" .text (some (.text "")), field "condition" .anything (some (.text "")),
    field "animation" animation, field "priority" .anything (some (.int 0)),
    field "intensity" .anything (some (.float 1.0)),
    spelled "intensityExpression" "intensity_expression" (.optional .text) (some .null),
    spelled "conflictGroup" "conflict_group" .anything (some (.text "default")),
    field "enabled" .anything (some (.bool true)), textOrNull "name", textOrNull "description"]

def declaration : Shape :=
  .object false [field "expression" .anything (some (.text "")), field "cached" .switch (some (.bool false)),
    textOrNull "description"]

def template : Shape :=
  .object false [field "id" .text, textOrNull "name", textOrNull "version",
    field "rules" (.list rule) (some (.list [])), field "variables" (.table declaration) emptyMap,
    field "metadata" (.table .anything) emptyMap]

def options : Shape :=
  .object false [spelled "enableCaching" "enable_caching" .switch (some (.bool true)),
    spelled "maxConcurrentEvaluations" "max_concurrent_evaluations" (.integer [.atLeast 1]) (some (.int 100)),
    spelled "enableProfiling" "enable_profiling" .switch (some (.bool false)),
    spelled "collectDebugInfo" "collect_debug_info" .switch (some (.bool false)),
    spelled "skipLowConfidenceWords" "skip_low_confidence_words" .switch (some (.bool true)),
    spelled "confidenceThreshold" "confidence_threshold" (.optional (.number [.atMost 1, .atLeast 0])) (some .null),
    spelled "enabledRuleIds" "enabled_rule_ids" (.optional (.list .text)) (some .null),
    spelled "disabledRuleIds" "disabled_rule_ids" (.optional (.list .text)) (some .null),
    spelled "maxProcessingTimeMs" "max_processing_time_ms" (.optional (.number [.above 0])) (some .null)]

/-- The body of a request to apply a template. -/
def applyRequest : Shape :=
  .object false [field "template" template, spelled "audioData" "audio_data" transcript,
    field "options" (.optional options) (some .null)]

end Body
end CaptionAnimation.Service
