import CaptionAnimation.Text.Quoted

/-! # Faults

Why a conversion, a comparison or a helper refuses its input. A fault is a cause; `message` gives its wording
and `category` its family. -/
namespace CaptionAnimation

inductive Fault.Category where
  | type
  | value
  | key
  | overflow
  | field
  | lookup
  | division
  | runtime
deriving DecidableEq, Repr

inductive Fault where
  /-- An integer of more than 4300 digits was to be written. -/
  | tooManyDigits
  /-- A numeral of more than 4300 digits was to be read as an integer. -/
  | numeralTooLong (digits : Nat)
  | integerBeyondDouble
  | quotientBeyondDouble
  | roundedBeyondDouble
  | infinityToInteger
  | undefinedToInteger
  | divisionByZero (float : Bool)
  | notFloatText (text : String)
  | notFloat (kind : String)
  | notIntegerText (text : String)
  | missingKey (name : String)
  | noField (kind field : String)
  | notIterable (kind : String)
  | notContainer (kind : String)
  | unhashable (kind : String)
  | pairNotSequence (index : Nat)
  | pairLength (index length : Nat)
  | unordered (operator left right : String)
  | textIndex (kind : String)
  | listIndex (container kind : String)
  | notSubscriptable (kind : String)
  | memberNotText (kind : String)
  | mapKey (kind : String)
  /-- A value that cannot be sent as JSON. -/
  | notSendable (kind : String)
  /-- An infinite or undefined number was to be sent as JSON. -/
  | notFinite
  | segmentWords (kind : String)
  | audioSegments
  | audioMetadata
  | expectedAudio (kind : String)
  | templateRules
  | templateVariables
  | expectedTemplate (kind : String)
  | concurrencyTooSmall
  | thresholdOutOfRange
  | cacheTooSmall
  | unavailable (root : String)
  | unknownReference (name : String)
  | expectsNumber (helper kind : String)
  | expectsText (helper kind : String)
  | expectsList (helper kind : String)
  | expectsTextOrList (helper kind : String)
  | emptyList (helper : String)
  | crossedBounds (helper low high : String)
  | digitsNotInteger
  | fieldNameNotText
  | unknownFlag (flag : Char)
  | badPattern (pattern reason : String)
  | mixedAlphabets
  | repetitionTooLarge
  | looksTooFarBehind
  | missingArguments (function : String) (names : List String)
  | excessArguments (function : String) (least most given : Nat)
deriving DecidableEq, Repr

namespace Fault

/-- `'a'`, `'a' and 'b'`, `'a', 'b', and 'c'`. -/
def listed : List String → String
  | [] => ""
  | [a] => Text.quoted a
  | [a, b] => Text.quoted a ++ " and " ++ Text.quoted b
  | names =>
    let all := names.map Text.quoted
    ", ".intercalate all.dropLast ++ ", and " ++ all.getLast?.getD ""

def plural (n : Nat) (word : String) : String :=
  if n == 1 then word else word ++ "s"

def message : Fault → String
  | tooManyDigits =>
    "Exceeds the limit (4300 digits) for integer string conversion; use sys.set_int_max_str_digits() to increase the limit"
  | numeralTooLong digits =>
    "Exceeds the limit (4300 digits) for integer string conversion: value has " ++ toString digits
      ++ " digits; use sys.set_int_max_str_digits() to increase the limit"
  | integerBeyondDouble => "int too large to convert to float"
  | quotientBeyondDouble => "integer division result too large for a float"
  | roundedBeyondDouble => "rounded value too large to represent"
  | infinityToInteger => "cannot convert float infinity to integer"
  | undefinedToInteger => "cannot convert float NaN to integer"
  | divisionByZero float => if float then "float modulo" else "integer modulo by zero"
  | notFloatText text => "could not convert string to float: " ++ Text.quoted text
  | notFloat kind => "float() argument must be a string or a real number, not '" ++ kind ++ "'"
  | notIntegerText text =>
    "invalid literal for int() with base 10: " ++ String.ofList ((Text.quoted text).toList.take 200)
  | missingKey name => Text.quoted name
  | noField kind field => "'" ++ kind ++ "' object has no attribute '" ++ field ++ "'"
  | notIterable kind => "'" ++ kind ++ "' object is not iterable"
  | notContainer kind => "argument of type '" ++ kind ++ "' is not iterable"
  | unhashable kind => "unhashable type: '" ++ kind ++ "'"
  | pairNotSequence index =>
    "cannot convert dictionary update sequence element #" ++ toString index ++ " to a sequence"
  | pairLength index length =>
    "dictionary update sequence element #" ++ toString index ++ " has length " ++ toString length
      ++ "; 2 is required"
  | unordered operator left right =>
    "'" ++ operator ++ "' not supported between instances of '" ++ left ++ "' and '" ++ right ++ "'"
  | textIndex kind => "string indices must be integers, not '" ++ kind ++ "'"
  | listIndex container kind => container ++ " indices must be integers or slices, not " ++ kind
  | notSubscriptable kind => "'" ++ kind ++ "' object is not subscriptable"
  | memberNotText kind => "'in <string>' requires string as left operand, not " ++ kind
  | mapKey kind => "keys must be str, int, float, bool or None, not " ++ kind
  | notSendable kind => "Object of type " ++ kind ++ " is not JSON serializable"
  | notFinite => "Out of range float values are not JSON compliant"
  | segmentWords kind => "segment words must be a list, got " ++ kind
  | audioSegments => "audio data must contain a 'segments' list"
  | audioMetadata => "audio data 'metadata' must be a mapping"
  | expectedAudio kind => "expected audio analysis data, got " ++ kind
  | templateRules => "template 'rules' must be a list"
  | templateVariables => "template 'variables' must be a mapping or a list"
  | expectedTemplate kind => "expected a template, got " ++ kind
  | concurrencyTooSmall => "max_concurrent_evaluations must be >= 1"
  | thresholdOutOfRange => "confidence_threshold must be between 0 and 1"
  | cacheTooSmall => "cache maxsize must be >= 1"
  | unavailable root => "'" ++ root ++ "' is not available when computing template variables"
  | unknownReference name => "Unknown reference '" ++ name ++ "'"
  | expectsNumber helper kind => helper ++ "() expects a number, got " ++ kind
  | expectsText helper kind => helper ++ "() expects a string, got " ++ kind
  | expectsList helper kind => helper ++ "() expects a list, got " ++ kind
  | expectsTextOrList helper kind => helper ++ "() expects a string or list, got " ++ kind
  | emptyList helper => helper ++ "() of an empty list"
  | crossedBounds helper low high =>
    helper ++ "() low bound " ++ low ++ " is greater than high bound " ++ high
  | digitsNotInteger => "round() digits must be an integer"
  | fieldNameNotText => "pluck() field name must be a string"
  | unknownFlag flag => "Unsupported regex flag '" ++ String.singleton flag ++ "'"
  | badPattern pattern reason => "Invalid regular expression '" ++ pattern ++ "': " ++ reason
  | mixedAlphabets => "ASCII and UNICODE flags are incompatible"
  | repetitionTooLarge => "the repetition number is too large"
  | looksTooFarBehind => "invalid SRE code"
  | missingArguments function names =>
    function ++ "() missing " ++ toString names.length ++ " required positional "
      ++ plural names.length "argument" ++ ": " ++ listed names
  | excessArguments function least most given =>
    let wanted :=
      if least = most then toString most ++ " positional " ++ plural most "argument"
      else "from " ++ toString least ++ " to " ++ toString most ++ " positional arguments"
    function ++ "() takes " ++ wanted ++ " but " ++ toString given
      ++ (if given = 1 then " was given" else " were given")

def category : Fault → Category
  | integerBeyondDouble | quotientBeyondDouble | roundedBeyondDouble | infinityToInteger
  | repetitionTooLarge => .overflow
  | tooManyDigits | numeralTooLong _ | undefinedToInteger | notFloatText _ | notIntegerText _ | pairLength _ _
  | concurrencyTooSmall | thresholdOutOfRange | cacheTooSmall | emptyList _ | crossedBounds _ _ _
  | unknownFlag _ | badPattern _ _ | mixedAlphabets | notFinite => .value
  | missingKey _ => .key
  | noField _ _ => .field
  | unavailable _ | unknownReference _ => .lookup
  | divisionByZero _ => .division
  | looksTooFarBehind => .runtime
  | _ => .type

/-- Whether a fault says that data have the wrong shape: a wrong type or value, or a missing key or field. -/
def ofShape (f : Fault) : Bool :=
  match f.category with
  | .type | .value | .key | .field => true
  | _ => false

end Fault
end CaptionAnimation
