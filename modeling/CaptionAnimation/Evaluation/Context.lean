import CaptionAnimation.Value.Field
import CaptionAnimation.Value.Place

/-! # What an expression sees

The current word and segment, the whole transcript, the variables and the counters. Without a word the context is
the one that variables are computed in. -/
namespace CaptionAnimation

structure Context where
  transcript : Transcript
  /-- The values of variables by name. -/
  bindings : Entries := []
  word : Option Word := none
  segment : Option Segment := none
  /-- The running index of the word over the whole transcript. -/
  wordIndex : Int := 0
  segmentIndex : Int := 0
  /-- The index of the word in its segment. -/
  position : Int := 0
  totalWords : Int := 0
  totalSegments : Int := 0
  wordId : Option String := none

namespace Context

/-- The context of the variables of a transcript. -/
def forVariables (transcript : Transcript) (bindings : Entries) : Context :=
  { transcript, bindings
    totalWords := transcript.words.length
    totalSegments := transcript.segments.length }

/-- Whether no word is at hand. -/
def isVariableScope (c : Context) : Bool := c.word.isNone

/-- The place that error messages name. -/
def location (c : Context) : String :=
  match c.wordId with
  | none => "template variables"
  | some id => "word " ++ id

/-- The names an expression may start from. -/
def rootNames : List String :=
  ["word", "segment", "audioData", "variables", "wordIndex", "segmentIndex", "wordPositionInSegment",
   "totalWords", "totalSegments"]

/-- The names that have a meaning at a word only. -/
def wordRootNames : List String := ["word", "segment", "wordIndex", "segmentIndex", "wordPositionInSegment"]

/-- The value of a name that an expression starts from. -/
def root (c : Context) (name : String) : Except Fault Value :=
  match name with
  | "word" => (c.word.map Value.word).elim (.error (.unavailable "word")) .ok
  | "segment" => (c.segment.map Value.segment).elim (.error (.unavailable "segment")) .ok
  | "audioData" => .ok (.transcript c.transcript)
  | "variables" => .ok (.readOnly c.bindings)
  | "wordIndex" => .ok (.int c.wordIndex)
  | "segmentIndex" => .ok (.int c.segmentIndex)
  | "wordPositionInSegment" => .ok (.int c.position)
  | "totalWords" => .ok (.int c.totalWords)
  | "totalSegments" => .ok (.int c.totalSegments)
  | _ => .error (.unknownReference name)

end Context

/-- The id of a word: its own when it has one, otherwise its place. -/
def Word.idAt (w : Word) (segmentIndex position : Int) : String :=
  match w.id with
  | some id => if id.isEmpty then placeId segmentIndex position else id
  | none => placeId segmentIndex position
where
  placeId (segmentIndex position : Int) : String := toString segmentIndex ++ "-" ++ toString position

/-- What expressions see at the word of a segment, counted from zero; there need not be one. -/
def Transcript.viewAt (t : Transcript) (bindings : Entries) (segmentIndex position : Nat) : Context :=
  let segment := t.segments[segmentIndex]?
  let word := segment.bind fun s => s.words[position]?
  let before := ((t.segments.take segmentIndex).flatMap Segment.words).length
  { transcript := t, bindings, word, segment
    wordIndex := before + position, segmentIndex, position
    totalWords := t.words.length, totalSegments := t.segments.length
    wordId := word.map fun w => w.idAt segmentIndex position }

/-- The same for a transcript and values of variables as they come from a caller. -/
def Transcript.contextAt (t : Transcript) (bindings : Entries) (segmentIndex position : Nat) : Context :=
  t.placed.viewAt (placedBindings bindings) segmentIndex position

end CaptionAnimation
