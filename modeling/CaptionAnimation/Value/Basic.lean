import CaptionAnimation.Number.Basic

/-! # Values and transcripts

What expressions compute with: plain data as it comes from a caller, the words, segments and transcript it
describes, and objects that a caller may hand in and expressions only pass on. Maps keep the order in which their keys
were added. -/
namespace CaptionAnimation

mutual

inductive Value where
  | null
  | bool (b : Bool)
  | number (n : Number)
  | text (s : String)
  | list (items : List Value)
  | tuple (items : List Value)
  | map (entries : List (Value × Value))
  /-- A map that its holder cannot write to. -/
  | readOnly (entries : List (Value × Value))
  | word (w : Word)
  | segment (s : Segment)
  | transcript (t : Transcript)
  /-- An object of a named type with its fields in order. -/
  | object (type : String) (fields : List (String × Value))

/-- A transcribed word with its times in seconds and further features. -/
structure Word where
  text : String
  start : Quantity
  finish : Quantity
  confidence : Quantity
  id : Option String
  features : List (Value × Value)

/-- A run of words, usually one utterance of one speaker. -/
structure Segment where
  words : List Word
  id : Option String
  start : Option Quantity
  finish : Option Quantity
  text : Value
  speaker : Value
  emotion : Value
  metadata : List (Value × Value)

/-- A whole transcript: its segments in document order. -/
structure Transcript where
  segments : List Segment
  metadata : List (Value × Value)
  id : Option String

end

/-- The entries of a map, oldest key first. -/
abbrev Entries := List (Value × Value)

namespace Value

def int (n : Int) : Value := number (.int n)

def float (x : Float) : Value := number (.float x)

def quantity (q : Quantity) : Value := number (.double q)

def ofOption (f : α → Value) : Option α → Value
  | none => null
  | some a => f a

/-- The name of the type, as messages about conversions give it. -/
def typeName : Value → String
  | null => "NoneType"
  | bool _ => "bool"
  | number n => n.typeName
  | text _ => "str"
  | list _ => "list"
  | tuple _ => "tuple"
  | map _ => "dict"
  | readOnly _ => "mappingproxy"
  | word _ => "AudioWord"
  | segment _ => "AudioSegment"
  | transcript _ => "AudioAnalysisData"
  | object type _ => type

/-- The name of the kind, as messages about expressions give it. -/
def kind : Value → String
  | null => "null"
  | bool _ => "boolean"
  | number _ => "number"
  | text _ => "string"
  | list _ | tuple _ => "list"
  | map _ | readOnly _ => "map"
  | v => v.typeName

/-- Null, false, zero and everything empty are false; all else is true. -/
def truthy : Value → Bool
  | null => false
  | bool b => b
  | number n => !n.isZero
  | text s => !s.isEmpty
  | list items | tuple items => !items.isEmpty
  | map entries | readOnly entries => !entries.isEmpty
  | word _ | segment _ | transcript _ | object _ _ => true

/-- The entries of a map, read-only or not. -/
def entries? : Value → Option Entries
  | map entries | readOnly entries => some entries
  | _ => none

/-- The items of a list or tuple. -/
def items? : Value → Option (List Value)
  | list items | tuple items => some items
  | _ => none

def text? : Value → Option String
  | text s => some s
  | _ => none

end Value

/-- The words of a transcript in document order. -/
def Transcript.words (t : Transcript) : List Word :=
  t.segments.flatMap Segment.words

end CaptionAnimation
