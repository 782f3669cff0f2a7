import CaptionAnimation.Value.Basic

/-! # Equality

Two notions. `Value.same` is sameness of data: booleans count as the numbers 0 and 1, a read-only map is the same as
the map it shows, and an undefined number is the same as itself. It compares the keys and items inside maps and
objects. `Value.equal` is the `==` of
expressions: values of different kinds differ, except that lists and tuples with equal items are equal. -/
namespace CaptionAnimation

/-- A number against a value that may stand for one. -/
def Number.sameAs (n : Number) : Value → Bool
  | .bool b => n.eq (.int b.toNat)
  | .number m => n.same m
  | _ => false

def Quantity.same (p q : Quantity) : Bool := (Number.double p).same (.double q)

def sameQuantity? : Option Quantity → Option Quantity → Bool
  | none, none => true
  | some p, some q => p.same q
  | _, _ => false

mutual

def Value.same : Value → Value → Bool
  | .null, .null => true
  | .bool a, w => (Number.int a.toNat).sameAs w
  | .number n, w => n.sameAs w
  | .text s, .text t => s == t
  | .list xs, .list ys => sameItems xs ys
  | .tuple xs, .tuple ys => sameItems xs ys
  | .map es, w =>
    match w.entries? with
    | some fs => es.length == fs.length && sameEntries es fs
    | none => false
  | .readOnly es, w =>
    match w.entries? with
    | some fs => es.length == fs.length && sameEntries es fs
    | none => false
  | .word v, .word w => v.same w
  | .segment s, .segment t => s.same t
  | .transcript s, .transcript t => s.same t
  | .object type fields, .object type' fields' => type == type' && sameFields fields fields'
  | _, _ => false

/-- The fields of two objects, one by one. -/
def sameFields : List (String × Value) → List (String × Value) → Bool
  | [], [] => true
  | (name, v) :: fs, (name', w) :: gs => name == name' && v.same w && sameFields fs gs
  | _, _ => false

def sameItems : List Value → List Value → Bool
  | [], [] => true
  | x :: xs, y :: ys => x.same y && sameItems xs ys
  | _, _ => false

/-- Every entry has an entry on the right with the same key and the same value. -/
def sameEntries : List (Value × Value) → List (Value × Value) → Bool
  | [], _ => true
  | (k, v) :: es, fs =>
    (match fs.find? fun f => k.same f.1 with
      | some f => v.same f.2
      | none => false)
    && sameEntries es fs

def Word.same : Word → Word → Bool
  | ⟨text, start, finish, confidence, id, features⟩, w =>
    text == w.text && start.same w.start && finish.same w.finish && confidence.same w.confidence
      && id == w.id && features.length == w.features.length && sameEntries features w.features

def sameWords : List Word → List Word → Bool
  | [], [] => true
  | v :: vs, w :: ws => v.same w && sameWords vs ws
  | _, _ => false

def Segment.same : Segment → Segment → Bool
  | ⟨words, id, start, finish, text, speaker, emotion, metadata⟩, s =>
    sameWords words s.words && id == s.id && sameQuantity? start s.start && sameQuantity? finish s.finish
      && text.same s.text && speaker.same s.speaker && emotion.same s.emotion
      && metadata.length == s.metadata.length && sameEntries metadata s.metadata

def sameSegments : List Segment → List Segment → Bool
  | [], [] => true
  | s :: ss, t :: ts => s.same t && sameSegments ss ts
  | _, _ => false

def Transcript.same : Transcript → Transcript → Bool
  | ⟨segments, metadata, id⟩, t =>
    sameSegments segments t.segments && metadata.length == t.metadata.length && sameEntries metadata t.metadata
      && id == t.id

end

mutual

/-- The `==` of expressions. -/
def Value.equal : Value → Value → Bool
  | .number a, .number b => a.eq b
  | .bool a, .bool b => a == b
  | .null, .null => true
  | .list xs, w | .tuple xs, w =>
    match w.items? with
    | some ys => equalItems xs ys
    | none => false
  | .text s, .text t => s == t
  | .map es, .map fs => (Value.map es).same (.map fs)
  | .readOnly es, .readOnly fs => (Value.map es).same (.map fs)
  | .word v, .word w => v.same w
  | .segment s, .segment t => s.same t
  | .transcript s, .transcript t => s.same t
  | .object type fields, .object type' fields' => (Value.object type fields).same (.object type' fields')
  | _, _ => false

def equalItems : List Value → List Value → Bool
  | [], [] => true
  | x :: xs, y :: ys => x.equal y && equalItems xs ys
  | _, _ => false

end

mutual

/-- The type of the first part that keeps a value from being a map key. -/
def Value.unkeyable : Value → Option String
  | .null | .bool _ | .number _ | .text _ => none
  | .list _ => some "list"
  | .map _ => some "dict"
  | .readOnly _ => some "mappingproxy"
  | .tuple items => unkeyableItem items
  | .word w => w.unkeyable
  | .segment s => s.unkeyable
  | .transcript t => t.unkeyable
  | .object _ fields => unkeyableField fields

def unkeyableField : List (String × Value) → Option String
  | [] => none
  | (_, v) :: fs => v.unkeyable.or (unkeyableField fs)

def unkeyableItem : List Value → Option String
  | [] => none
  | x :: xs => x.unkeyable.or (unkeyableItem xs)

/-- A word holds a map, so it is no key. -/
def Word.unkeyable : Word → Option String
  | _ => some "dict"

def unkeyableWord : List Word → Option String
  | [] => none
  | w :: ws => w.unkeyable.or (unkeyableWord ws)

def Segment.unkeyable : Segment → Option String
  | ⟨words, _, _, _, text, speaker, emotion, _⟩ =>
    (unkeyableWord words).or <| text.unkeyable.or <| speaker.unkeyable.or <| emotion.unkeyable.or (some "dict")

def unkeyableSegment : List Segment → Option String
  | [] => none
  | s :: ss => s.unkeyable.or (unkeyableSegment ss)

def Transcript.unkeyable : Transcript → Option String
  | ⟨segments, _, _⟩ => (unkeyableSegment segments).or (some "dict")

end

namespace Entries

/-- The value under a key. -/
def find? (entries : Entries) (key : Value) : Option Value :=
  (List.find? (fun e => key.same e.1) entries).map (·.2)

/-- The value under a text key. -/
def get? (entries : Entries) (key : String) : Option Value :=
  find? entries (.text key)

/-- Sets the value under a key; a key that is already there keeps its place and its first spelling. -/
def put (key value : Value) : Entries → Entries
  | [] => [(key, value)]
  | (k, v) :: rest => if key.same k then (k, value) :: rest else (k, v) :: put key value rest

end Entries
end CaptionAnimation
