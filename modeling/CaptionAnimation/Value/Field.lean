import CaptionAnimation.Value.Conversion

/-! # Fields

What `value.name` reads: entries of maps, the fields of words, segments and transcripts with their features and
metadata, and the length of texts and lists. -/
namespace CaptionAnimation

namespace Word

def duration (w : Word) : Float := w.finish.value - w.start.value

def field? (w : Word) (name : String) : Option Value :=
  match name with
  | "text" => some (.text w.text)
  | "start" => some (.quantity w.start)
  | "end" => some (.quantity w.finish)
  | "confidence" => some (.quantity w.confidence)
  | "id" => some (.ofOption .text w.id)
  | "duration" => some (.float w.duration)
  | "features" => some (.map w.features)
  | _ => Entries.get? w.features name

end Word

namespace Segment

/-- From the declared start, or that of the first word, to the declared end, or that of the last word. -/
def duration (s : Segment) : Float :=
  let start := s.start.or (s.words.head?.map Word.start)
  let finish := s.finish.or (s.words.getLast?.map Word.finish)
  (finish.elim 0.0 Quantity.value) - (start.elim 0.0 Quantity.value)

/-- The declared text, or the words joined by spaces. -/
def spokenText (s : Segment) : Value :=
  match s.text with
  | .null => .text (" ".intercalate (s.words.map Word.text))
  | declared => declared

def field? (s : Segment) (name : String) : Option Value :=
  match name with
  | "wordCount" => some (.int s.words.length)
  | "duration" => some (.float s.duration)
  | "words" => some (.list (s.words.map .word))
  | "text" => some s.spokenText
  | "id" => some (.ofOption .text s.id)
  | "start" => some (.ofOption .quantity s.start)
  | "end" => some (.ofOption .quantity s.finish)
  | "speaker" => some s.speaker
  | "emotion" => some s.emotion
  | "metadata" => some (.map s.metadata)
  | _ => Entries.get? s.metadata name

end Segment

namespace Transcript

/-- The declared duration, or the end of the last word. -/
def duration (t : Transcript) : Except Fault Quantity :=
  match Entries.get? t.metadata "duration" with
  | some declared => declared.toQuantity
  | none => .ok ((t.words.getLast?.map Word.finish).getD ⟨0.0, none⟩)

def field? (t : Transcript) (name : String) : Except Fault (Option Value) :=
  match name with
  | "segments" => .ok (some (.list (t.segments.map .segment)))
  | "words" => .ok (some (.list (t.words.map .word)))
  | "totalWords" => .ok (some (.int t.words.length))
  | "totalSegments" => .ok (some (.int t.segments.length))
  | "metadata" => .ok (some (.map t.metadata))
  | "duration" => do return some (.quantity (← t.duration))
  | "id" => .ok (some (.ofOption .text t.id))
  | _ => .ok none

end Transcript

namespace Value

/-- The length of a text or list, the one field they have. -/
def lengthField? (length : Nat) (name : String) : Option Value :=
  if name == "length" then some (.int length) else none

/-- The field `name`, or `none` when there is no such field. Only the duration of a transcript can fault. -/
def field? (v : Value) (name : String) : Except Fault (Option Value) :=
  match v with
  | map entries | readOnly entries => .ok (Entries.get? entries name)
  | word w => .ok (w.field? name)
  | segment s => .ok (s.field? name)
  | transcript t => t.field? name
  | text s => .ok (lengthField? s.length name)
  | list items | tuple items => .ok (lengthField? items.length name)
  | null | bool _ | number _ | object _ _ => .ok none

/-- The id of a value that has one, whatever its type. -/
def id? : Value → Option Value
  | word w => some (ofOption text w.id)
  | segment s => some (ofOption text s.id)
  | transcript t => some (ofOption text t.id)
  | object _ fields => fields.lookup "id"
  | _ => none

end Value
end CaptionAnimation
