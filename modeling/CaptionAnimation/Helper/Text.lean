import CaptionAnimation.Helper.Registry
import CaptionAnimation.Pattern.Matcher
import CaptionAnimation.Text.Search
import CaptionAnimation.Value.Equality

/-! # Text helpers

Case, length, and tests for parts and patterns. -/
namespace CaptionAnimation.Helper

/-- The text that a helper was given. -/
def text (helper : String) : Value → Except Fault String
  | .text s => .ok s
  | v => .error (.expectsText helper v.typeName)

/-- A helper that changes one text into another. -/
def changing (helper : String) (change : List Char → List Char) : List Value → Except Fault Value
  | [value] => do return .text (String.ofList (change (← text helper value).toList))
  | args => .error (wrongCount helper ["value"] 0 args.length)

def lower : List Value → Except Fault Value := changing "lower" Text.lower

def upper : List Value → Except Fault Value := changing "upper" Text.upper

def trim : List Value → Except Fault Value := changing "trim" Text.trim

/-- The number of characters, items or entries. -/
def length : List Value → Except Fault Value
  | [.text s] => .ok (.int s.length)
  | [.list items] | [.tuple items] => .ok (.int items.length)
  | [.map entries] => .ok (.int entries.length)
  | [v] => .error (.expectsTextOrList "length" v.typeName)
  | args => .error (wrongCount "length" ["value"] 0 args.length)

/-- Whether a list has an item, or a text a part. The flag `i` disregards the case of texts. -/
def containsWith (haystack needle flags : Value) : Except Fault Value := do
  match haystack.items? with
  | some items => return .bool (items.any needle.same)
  | none =>
    let whole ← text "contains" haystack
    let part ← text "contains" needle
    match flags with
    | .text "i" => return .bool (Text.occursIn (Text.lower part.toList) (Text.lower whole.toList))
    | _ => return .bool (Text.occursIn part.toList whole.toList)

def contains : List Value → Except Fault Value
  | [haystack, needle] => containsWith haystack needle (.text "")
  | [haystack, needle, flags] => containsWith haystack needle flags
  | args => .error (wrongCount "contains" ["haystack", "needle"] 1 args.length)

def startsWith : List Value → Except Fault Value
  | [value, part] => do
    let whole ← text "startsWith" value
    return .bool ((← text "startsWith" part).toList.isPrefixOf whole.toList)
  | args => .error (wrongCount "starts_with" ["value", "prefix"] 0 args.length)

def endsWith : List Value → Except Fault Value
  | [value, part] => do
    let whole ← text "endsWith" value
    return .bool ((← text "endsWith" part).toList.isSuffixOf whole.toList)
  | args => .error (wrongCount "ends_with" ["value", "suffix"] 0 args.length)

/-- The flags that letters stand for. -/
def patternFlags (letters : String) : Except Fault Pattern.Flags :=
  letters.toList.foldlM
    (fun (flags : Pattern.Flags) c =>
      match c with
      | 'i' => .ok { flags with ignoreCase := true }
      | 'm' => .ok { flags with multiline := true }
      | c => .error (.unknownFlag c))
    {}

/-- Reads a pattern under flags given by letters. -/
def compilePattern (source letters : String) : Except Fault Pattern.Compiled := do
  match Pattern.compile source (← patternFlags letters) with
  | .ok pattern => return pattern
  | .error (.at reason offset) => throw (.badPattern source (Pattern.locate source reason offset))
  | .error (.whole reason) => throw (.badPattern source reason)
  | .error .repetitionTooLarge => throw .repetitionTooLarge
  | .error .mixedAlphabets => throw .mixedAlphabets
  | .error .looksTooFarBehind => throw .looksTooFarBehind

def matchesWith (value pattern flags : Value) : Except Fault Value := do
  let subject ← text "matches" value
  let source ← text "matches" pattern
  let letters ← text "matches" flags
  return .bool ((← compilePattern source letters).search subject)

def isMatch : List Value → Except Fault Value
  | [value, pattern] => matchesWith value pattern (.text "")
  | [value, pattern, flags] => matchesWith value pattern flags
  | args => .error (wrongCount "matches" ["value", "pattern"] 1 args.length)

end CaptionAnimation.Helper
