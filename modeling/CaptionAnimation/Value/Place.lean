import CaptionAnimation.Value.Basic

/-! # Places of undefined numbers

Wherever data are taken in, each undefined number in them is told its place, unless it knows another one already.
From then on it is the same as itself, however it is passed on, and as no other. -/
namespace CaptionAnimation

mutual

/-- A value at a place. -/
def Value.placed (place : Origin) : Value → Value
  | .number n => .number (n.placed place)
  | .list items => .list (placedItems place 0 items)
  | .tuple items => .tuple (placedItems place 0 items)
  | .map entries => .map (placedEntries place 0 entries)
  | .readOnly entries => .readOnly (placedEntries place 0 entries)
  | .word w => .word (w.placed place)
  | .segment s => .segment (s.placed place)
  | .transcript t => .transcript (t.placedAt place)
  | .object type fields => .object type (placedFields place 0 fields)
  | .null => .null
  | .bool b => .bool b
  | .text s => .text s

/-- Fields from a position on. -/
def placedFields (place : Origin) (index : Nat) : List (String × Value) → List (String × Value)
  | [] => []
  | (name, v) :: fs => (name, v.placed (index :: place)) :: placedFields place (index + 1) fs

/-- Items from a position on. -/
def placedItems (place : Origin) (index : Nat) : List Value → List Value
  | [] => []
  | x :: xs => x.placed (index :: place) :: placedItems place (index + 1) xs

/-- Entries from a position on; a key and its value have places of their own. -/
def placedEntries (place : Origin) (index : Nat) : List (Value × Value) → List (Value × Value)
  | [] => []
  | (k, v) :: es => (k.placed (0 :: index :: place), v.placed (1 :: index :: place)) :: placedEntries place (index + 1) es

def Word.placed (place : Origin) : Word → Word
  | ⟨text, start, finish, confidence, id, features⟩ =>
    ⟨text, start.placed (0 :: place), finish.placed (1 :: place), confidence.placed (2 :: place), id,
      placedEntries (3 :: place) 0 features⟩

def placedWords (place : Origin) (index : Nat) : List Word → List Word
  | [] => []
  | w :: ws => w.placed (index :: place) :: placedWords place (index + 1) ws

def Segment.placed (place : Origin) : Segment → Segment
  | ⟨words, id, start, finish, text, speaker, emotion, metadata⟩ =>
    ⟨placedWords (0 :: place) 0 words, id, start.map (Quantity.placed (1 :: place)),
      finish.map (Quantity.placed (2 :: place)), text.placed (3 :: place), speaker.placed (4 :: place),
      emotion.placed (5 :: place), placedEntries (6 :: place) 0 metadata⟩

def placedSegments (place : Origin) (index : Nat) : List Segment → List Segment
  | [] => []
  | s :: ss => s.placed (index :: place) :: placedSegments place (index + 1) ss

def Transcript.placedAt (place : Origin) : Transcript → Transcript
  | ⟨segments, metadata, id⟩ => ⟨placedSegments (0 :: place) 0 segments, placedEntries (1 :: place) 0 metadata, id⟩

end

/-! ## Made numbers

An undefined number of the transcript is made once and for all; one that an expression makes is another one each time.
-/

/-- Whether this is an undefined number from outside the transcript. -/
def Quantity.isMade (q : Quantity) : Bool := q.value.isNaN && q.origin.all fun place => place.getLast? != some 0

def Number.isMade : Number → Bool
  | .int _ => false
  | .double q => q.isMade

mutual

/-- Whether an undefined number from outside the transcript is in a value. -/
def Value.holdsMade : Value → Bool
  | .number n => n.isMade
  | .list items | .tuple items => itemsHoldMade items
  | .map entries | .readOnly entries => entriesHoldMade entries
  | .word w => w.holdsMade
  | .segment s => s.holdsMade
  | .transcript t => t.holdsMade
  | .object _ fields => fieldsHoldMade fields
  | .null | .bool _ | .text _ => false

def fieldsHoldMade : List (String × Value) → Bool
  | [] => false
  | (_, v) :: fs => v.holdsMade || fieldsHoldMade fs

def itemsHoldMade : List Value → Bool
  | [] => false
  | x :: xs => x.holdsMade || itemsHoldMade xs

def entriesHoldMade : List (Value × Value) → Bool
  | [] => false
  | (k, v) :: es => k.holdsMade || v.holdsMade || entriesHoldMade es

def Word.holdsMade : Word → Bool
  | ⟨_, start, finish, confidence, _, features⟩ =>
    start.isMade || finish.isMade || confidence.isMade || entriesHoldMade features

def wordsHoldMade : List Word → Bool
  | [] => false
  | w :: ws => w.holdsMade || wordsHoldMade ws

def Segment.holdsMade : Segment → Bool
  | ⟨words, _, start, finish, text, speaker, emotion, metadata⟩ =>
    wordsHoldMade words || start.any Quantity.isMade || finish.any Quantity.isMade || text.holdsMade
      || speaker.holdsMade || emotion.holdsMade || entriesHoldMade metadata

def segmentsHoldMade : List Segment → Bool
  | [] => false
  | s :: ss => s.holdsMade || segmentsHoldMade ss

def Transcript.holdsMade : Transcript → Bool
  | ⟨segments, metadata, _⟩ => segmentsHoldMade segments || entriesHoldMade metadata

end

/-- The transcript that expressions are about, at the place of its own. -/
def Transcript.placed (t : Transcript) : Transcript := t.placedAt [0]

/-- The values of variables, which begin at the place beside the transcript. -/
def placedBindings (bindings : Entries) : Entries := placedEntries [1] 0 bindings

end CaptionAnimation
