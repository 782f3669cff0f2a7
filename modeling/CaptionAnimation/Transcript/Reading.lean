import CaptionAnimation.Value.Conversion
import CaptionAnimation.Value.Display

/-! # Reading transcripts

Words, segments and transcripts from plain maps. Keys of a word that name no field of their own become features, so
that flat recognizer output can be used as it is. -/
namespace CaptionAnimation

namespace Value

/-- A required entry. -/
def need (entries : Entries) (key : String) : Except Fault Value :=
  match Entries.get? entries key with
  | some v => .ok v
  | none => .error (.missingKey key)

/-- An entry that is neither missing nor null. -/
def given? (entries : Entries) (key : String) : Option Value :=
  match Entries.get? entries key with
  | some .null => none
  | found => found

/-- The entry, or null. -/
def getOrNull (entries : Entries) (key : String) : Value := (Entries.get? entries key).getD .null

/-- The text of an entry that is neither missing nor null. -/
def givenText? (entries : Entries) (key : String) : Except Fault (Option String) :=
  (given? entries key).mapM plain

end Value

namespace Word

/-- Keys of a word that are no features. -/
def ownKeys : List String := ["text", "start", "end", "confidence", "id", "features"]

def isOwnKey : Value → Bool
  | .text key => ownKeys.contains key
  | _ => false

def ofValue (v : Value) : Except Fault Word := do
  let entries ← v.fields
  let declared ← Value.toEntriesOrEmpty (Entries.get? entries "features")
  let features := entries.foldl (fun acc (k, x) => if isOwnKey k then acc else Entries.put k x acc) declared
  let text ← (← Value.need entries "text").plain
  let start ← (← Value.need entries "start").toQuantity
  let finish ← (← Value.need entries "end").toQuantity
  let confidence ← ((Entries.get? entries "confidence").getD (.float 1.0)).toQuantity
  let id ← Value.givenText? entries "id"
  return { text, start, finish, confidence, id, features }

/-- A word as it is, or read from a map. -/
def ofItem : Value → Except Fault Word
  | .word w => .ok w
  | v => ofValue v

end Word

namespace Segment

def ofValue (v : Value) : Except Fault Segment := do
  let entries ← v.fields
  let items ←
    match Value.given? entries "words" with
    | none => pure []
    | some words =>
      match words.items? with
      | some items => pure items
      | none => throw (.segmentWords words.typeName)
  let words ← items.mapM Word.ofItem
  let id ← Value.givenText? entries "id"
  let start ← (Value.given? entries "start").mapM Value.toQuantity
  let finish ← (Value.given? entries "end").mapM Value.toQuantity
  let metadata ← Value.toEntriesOrEmpty (Entries.get? entries "metadata")
  return { words, id, start, finish, metadata
           text := Value.getOrNull entries "text"
           speaker := Value.getOrNull entries "speaker"
           emotion := Value.getOrNull entries "emotion" }

/-- A segment as it is, or read from a map. -/
def ofItem : Value → Except Fault Segment
  | .segment s => .ok s
  | v => ofValue v

end Segment

namespace Transcript

def ofValue (v : Value) : Except Fault Transcript := do
  let entries ← v.fields
  let items ←
    match (Value.getOrNull entries "segments").items? with
    | some items => pure items
    | none => throw .audioSegments
  let metadata ←
    match Entries.get? entries "metadata" with
    | none => pure []
    | some m =>
      if !m.truthy then pure []
      else match m.entries? with
        | some entries => pure entries
        | none => throw .audioMetadata
  let segments ← items.mapM Segment.ofItem
  let id ← Value.givenText? entries "id"
  return { segments, metadata, id }

end Transcript
end CaptionAnimation
