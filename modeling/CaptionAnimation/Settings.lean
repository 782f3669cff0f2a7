import CaptionAnimation.Number.Reading
import CaptionAnimation.Text.Blank
import CaptionAnimation.Text.Case

/-! # Settings

What a host can set through its environment, with the defaults. -/
namespace CaptionAnimation

/-- The version of this library. -/
def version : String := "0.3.0"

def productName : String := "Captionarr"

def productDescription : String := "Template-driven caption animation engine"

structure Settings where
  logLevel : String := "INFO"
  /-- `none` stands for the directory beside the program. -/
  logDirectory : Option String := none
  logToFile : Bool := false
  /-- How many compiled templates are kept. -/
  templateCacheSize : Int := 128
  /-- How many values of variables are kept. -/
  variableCacheSize : Int := 1024
  confidenceThreshold : Float := 0.5
  debug : Bool := false
  host : String := "0.0.0.0"
  /-- The number of the socket on which the service listens. -/
  socket : Int := 9196

namespace Settings

/-- The words that switch something on. -/
def switchesOn (text : String) : Bool :=
  ["1", "true", "yes", "on"].contains (String.ofList (Text.lower (Text.trim text.toList)))

/-- Reads the settings; what is not set keeps its default. The first numeral that cannot be read is the fault. -/
def ofEnvironment (lookup : String → Option String) : Except Fault Settings := do
  let defaults : Settings := {}
  let switch (name : String) (default : Bool) : Bool := (lookup name).elim default switchesOn
  let integer (name : String) (default : Int) : Except Fault Int := (lookup name).elim (.ok default) Numeral.integer
  let templateCacheSize ← integer "COMPILED_TEMPLATE_CACHE_SIZE" defaults.templateCacheSize
  let variableCacheSize ← integer "VARIABLE_CACHE_SIZE" defaults.variableCacheSize
  let confidenceThreshold ←
    (lookup "DEFAULT_CONFIDENCE_THRESHOLD").elim (.ok defaults.confidenceThreshold) Numeral.float
  let socket ← integer "API_PORT" defaults.socket
  return {
    logLevel := (lookup "LOG_LEVEL").getD defaults.logLevel
    logDirectory := lookup "LOG_DIR"
    logToFile := switch "LOG_TO_FILE" defaults.logToFile
    templateCacheSize, variableCacheSize, confidenceThreshold
    debug := switch "DEBUG_MODE" defaults.debug
    host := (lookup "API_HOST").getD defaults.host
    socket }

end Settings
end CaptionAnimation
