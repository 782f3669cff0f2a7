import CaptionAnimation.Value.Basic

/-! # Values in messages

The text of a value inside a message: `None`, `True`, `'it'`, `[1, 'a']`, `('0',)`, `{'a': 1}`, and words, segments
and transcripts with all their fields. An integer beyond the digit limit has no text. -/
namespace CaptionAnimation

/-- `None`, or the text of the content. -/
def displayOption (f : α → String) : Option α → String
  | none => "None"
  | some a => f a

def displayQuantity (q : Quantity) : String := Notation.float q.value

/-- Items between parentheses; a single item is followed by a comma. -/
def parenthesized : List String → String
  | [item] => "(" ++ item ++ ",)"
  | items => "(" ++ ", ".intercalate items ++ ")"

/-- Entries between braces. -/
def braced (entries : List String) : String := "\x7b" ++ ", ".intercalate entries ++ "\x7d"

mutual

def Value.display : Value → Except Fault String
  | .null => .ok "None"
  | .bool b => .ok (if b then "True" else "False")
  | .number n => n.text
  | .text s => .ok (Text.quoted s)
  | .list items => return "[" ++ ", ".intercalate (← displayItems items) ++ "]"
  | .tuple items => return parenthesized (← displayItems items)
  | .map entries => return braced (← displayEntries entries)
  | .readOnly entries => return "mappingproxy(" ++ braced (← displayEntries entries) ++ ")"
  | .word w => w.display
  | .segment s => s.display
  | .transcript t => t.display
  | .object type fields => return type ++ "(" ++ ", ".intercalate (← displayFields fields) ++ ")"

def displayFields : List (String × Value) → Except Fault (List String)
  | [] => .ok []
  | (name, v) :: fs => return (name ++ "=" ++ (← v.display)) :: (← displayFields fs)

def displayItems : List Value → Except Fault (List String)
  | [] => .ok []
  | x :: xs => return (← x.display) :: (← displayItems xs)

def displayEntries : List (Value × Value) → Except Fault (List String)
  | [] => .ok []
  | (k, v) :: es => return ((← k.display) ++ ": " ++ (← v.display)) :: (← displayEntries es)

def Word.display : Word → Except Fault String
  | ⟨text, start, finish, confidence, id, features⟩ =>
    return "AudioWord(text=" ++ Text.quoted text ++ ", start=" ++ displayQuantity start ++ ", end="
      ++ displayQuantity finish ++ ", confidence=" ++ displayQuantity confidence ++ ", id="
      ++ displayOption Text.quoted id ++ ", features=" ++ braced (← displayEntries features) ++ ")"

def displayWords : List Word → Except Fault (List String)
  | [] => .ok []
  | w :: ws => return (← w.display) :: (← displayWords ws)

def Segment.display : Segment → Except Fault String
  | ⟨words, id, start, finish, text, speaker, emotion, metadata⟩ =>
    return "AudioSegment(words=" ++ parenthesized (← displayWords words) ++ ", id="
      ++ displayOption Text.quoted id ++ ", start=" ++ displayOption displayQuantity start ++ ", end="
      ++ displayOption displayQuantity finish ++ ", text=" ++ (← text.display) ++ ", speaker=" ++ (← speaker.display)
      ++ ", emotion=" ++ (← emotion.display) ++ ", metadata="
      ++ braced (← displayEntries metadata) ++ ")"

def displaySegments : List Segment → Except Fault (List String)
  | [] => .ok []
  | s :: ss => return (← s.display) :: (← displaySegments ss)

def Transcript.display : Transcript → Except Fault String
  | ⟨segments, metadata, id⟩ =>
    return "AudioAnalysisData(segments=" ++ parenthesized (← displaySegments segments) ++ ", metadata="
      ++ braced (← displayEntries metadata) ++ ", id=" ++ displayOption Text.quoted id ++ ")"

end

/-- A text as it is, a read-only map as the map it shows, and any other value as in messages. -/
def Value.plain : Value → Except Fault String
  | .text s => .ok s
  | .readOnly entries => (Value.map entries).display
  | v => v.display

end CaptionAnimation
