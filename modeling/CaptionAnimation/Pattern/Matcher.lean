import CaptionAnimation.Pattern.CharClass
import CaptionAnimation.Pattern.Parser

/-! # Matching patterns

Matching tries the alternatives of a pattern in order and goes back to the latest choice when what follows does not
match. A matcher takes the place it starts from and what is to match next. -/
namespace CaptionAnimation.Pattern

/-- A place in the text on the way to a match, with the ends of the groups passed so far, latest first. -/
structure Place where
  pos : Nat
  starts : List (Nat × Nat) := []
  stops : List (Nat × Nat) := []

namespace Place

/-- The span of a group, unless it was opened again after its last end. -/
def span? (p : Place) (group : Nat) : Option (Nat × Nat) :=
  match p.starts.lookup group, p.stops.lookup group with
  | some first, some last => if first ≤ last then some (first, last) else none
  | _, _ => none

def openAt (p : Place) (group : Option Nat) : Place :=
  match group with
  | some g => { p with starts := (g, p.pos) :: p.starts }
  | none => p

def closeAt (p : Place) (group : Option Nat) : Place :=
  match group with
  | some g => { p with stops := (g, p.pos) :: p.stops }
  | none => p

end Place

/-- What is to match after a part; gives the place of a whole match. -/
abbrev Next := Place → Option Place

abbrev Matcher := Place → Next → Option Place

/-- One character that passes a test. -/
def single (text : Array Char) (test : Char → Bool) : Matcher := fun p next =>
  match text[p.pos]? with
  | some c => if test c then next { p with pos := p.pos + 1 } else none
  | none => none

def isLineBreak (text : Array Char) (pos : Nat) : Bool := text[pos]? == some '\n'

/-- Whether exactly one side of a position is a word character. -/
def atBoundary (f : Flags) (text : Array Char) (pos : Nat) : Bool :=
  let before := if pos = 0 then false else text[pos - 1]?.any (isWordChar f)
  before != text[pos]?.any (isWordChar f)

def Anchor.holds (f : Flags) (text : Array Char) (pos : Nat) : Anchor → Bool
  | .lineStart => pos = 0 || (f.multiline && isLineBreak text (pos - 1))
  | .lineStop =>
    pos = text.size || (isLineBreak text pos && (f.multiline || pos + 1 = text.size))
  | .textStart => pos = 0
  | .textStop => pos = text.size
  | .boundary => text.size ≠ 0 && atBoundary f text pos
  | .insideWord => text.size ≠ 0 && !atBoundary f text pos

/-- Whether two characters are the same for a reference. -/
def sameChar (f : Flags) (c d : Char) : Bool :=
  if f.ignoreCase then lowerCode f c.toNat == lowerCode f d.toNat else c == d

/-- The text of a group again. -/
def again (f : Flags) (text : Array Char) (group : Nat) : Matcher := fun p next =>
  match p.span? group with
  | none => none
  | some (first, last) =>
    let wanted := (text.extract first last).toList
    let found := (text.extract p.pos (p.pos + (last - first))).toList
    if wanted.length = found.length && (wanted.zip found).all fun (c, d) => sameChar f c d then
      next { p with pos := p.pos + wanted.length }
    else none

/-- As often as possible. `last` is where the latest optional turn began: a turn that does not move ends the
repetition. -/
def greedyTurns (turn : Matcher) (least : Nat) (most : Option Nat) :
    (budget count : Nat) → (last : Option Nat) → Matcher
  | 0, _, _ => fun _ _ => none
  | budget + 1, count, last => fun p next =>
    if count < least then turn p fun q => greedyTurns turn least most budget (count + 1) last q next
    else if most.all (count < ·) && last ≠ some p.pos then
      (turn p fun q => greedyTurns turn least most budget (count + 1) (some p.pos) q next).or (next p)
    else next p

/-- As seldom as possible. -/
def lazyTurns (turn : Matcher) (least : Nat) (most : Option Nat) :
    (budget count : Nat) → (last : Option Nat) → Matcher
  | 0, _, _ => fun _ _ => none
  | budget + 1, count, last => fun p next =>
    if count < least then turn p fun q => lazyTurns turn least most budget (count + 1) last q next
    else
      (next p).or <|
        if most.all (count < ·) && last ≠ some p.pos then
          turn p fun q => lazyTurns turn least most budget (count + 1) (some p.pos) q next
        else none

/-- As often as possible, and never given back. -/
def firmTurns (turn : Matcher) (least : Nat) (most : Option Nat) :
    (budget count : Nat) → (last : Option Nat) → Place → Option Place
  | 0, _, _ => fun _ => none
  | budget + 1, count, last => fun p =>
    if count < least then
      match turn p some with
      | some q => firmTurns turn least most budget (count + 1) last q
      | none => none
    else if most.all (count < ·) && last ≠ some p.pos then
      match turn p some with
      | some q => firmTurns turn least most budget (count + 1) (some p.pos) q
      | none => some p
    else some p

/-- A repetition of a part. Every turn beyond the required ones moves on, so their number is bounded by the text. -/
def repetition (size : Nat) (greed : Greed) (least : Nat) (most : Option Nat) (turn : Matcher) : Matcher :=
  fun p next =>
    let budget := least + size + 3
    match greed with
    | .greedy => greedyTurns turn least most budget 0 none p next
    | .lazy => lazyTurns turn least most budget 0 none p next
    | .possessive =>
      match firmTurns turn least most budget 0 none p with
      | some q => next q
      | none => none

/-- A part looked for ahead, or ending here. -/
def glance (back : Option Nat) (positive : Bool) (part : Matcher) : Matcher := fun p next =>
  let found :=
    match back with
    | none => part p some
    | some width => if p.pos < width then none else part { p with pos := p.pos - width } some
  match found with
  | some q => if positive then next { q with pos := p.pos } else none
  | none => if positive then none else next p

mutual

def Node.matcher (f : Flags) (text : Array Char) : Node → Matcher
  | .code c negated => single text fun d => matchesCode f c d != negated
  | .any => single text fun d => f.dotAll || d != '\n'
  | .set negated items => single text fun d => (items.any fun item => item.matches f d) != negated
  | .anchor a => fun p next => if a.holds f text p.pos then next p else none
  | .back group _ => again f text group
  | .group index added removed body => fun p next =>
    matcherAll (f.inside added removed) text body (p.openAt index) fun q => next (q.closeAt index)
  | .atomic body => fun p next =>
    match matcherAll f text body p some with
    | some q => next q
    | none => none
  | .look behind positive body =>
    glance (if behind then some (widthAll body).1 else none) positive (matcherAll f text body)
  | .choice alternatives => matcherAmong f text alternatives
  | .ifGroup group yes no => fun p next =>
    match p.span? group with
    | some _ => matcherAll f text yes p next
    | none =>
      match no with
      | some other => matcherAll f text other p next
      | none => next p
  | .repeated greed least most body => repetition text.size greed least most (matcherAll f text body)

/-- The parts one after the other. -/
def matcherAll (f : Flags) (text : Array Char) : List Node → Matcher
  | [] => fun p next => next p
  | n :: rest => fun p next => n.matcher f text p fun q => matcherAll f text rest q next

/-- The first alternative with which everything after it matches too. -/
def matcherAmong (f : Flags) (text : Array Char) : List (List Node) → Matcher
  | [] => fun _ _ => none
  | body :: rest => fun p next => (matcherAll f text body p next).or (matcherAmong f text rest p next)

end

/-- Whether a compiled pattern matches somewhere in a text. -/
def Compiled.search (pattern : Compiled) (text : String) : Bool :=
  let chars := text.toList.toArray
  (List.range (chars.size + 1)).any fun start =>
    (matcherAll pattern.flags chars pattern.body { pos := start } some).isSome

end CaptionAnimation.Pattern
