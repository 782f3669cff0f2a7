/-! # Pattern trees

The syntax of text patterns: characters and character sets, anchors, groups, references, alternatives, assertions
and repetitions. Characters are code points, since a pattern may name one that no text holds. -/
namespace CaptionAnimation.Pattern

structure Flags where
  ignoreCase : Bool := false
  /-- Anchors also match at line breaks. -/
  multiline : Bool := false
  /-- The dot also matches a line break. -/
  dotAll : Bool := false
  /-- Blanks and comments in the pattern are skipped. -/
  spaced : Bool := false
  ascii : Bool := false
  unicode : Bool := false
  template : Bool := false
deriving DecidableEq, Repr

namespace Flags

def union (a b : Flags) : Flags :=
  ⟨a.ignoreCase || b.ignoreCase, a.multiline || b.multiline, a.dotAll || b.dotAll, a.spaced || b.spaced,
    a.ascii || b.ascii, a.unicode || b.unicode, a.template || b.template⟩

def without (a b : Flags) : Flags :=
  ⟨a.ignoreCase && !b.ignoreCase, a.multiline && !b.multiline, a.dotAll && !b.dotAll, a.spaced && !b.spaced,
    a.ascii && !b.ascii, a.unicode && !b.unicode, a.template && !b.template⟩

def none : Flags := {}

/-- Whether one of the flags that choose the alphabet is set. -/
def choosesAlphabet (a : Flags) : Bool := a.ascii || a.unicode

/-- The flags inside a group that adds and removes some; a chosen alphabet replaces the one before. -/
def inside (a added removed : Flags) : Flags :=
  let base := if added.choosesAlphabet then { a with ascii := false, unicode := false } else a
  (base.union added).without removed

end Flags

inductive Class where
  | digit
  | space
  | word
deriving DecidableEq, Repr

inductive SetItem where
  | code (c : Nat)
  | range (low high : Nat)
  | inClass (c : Class) (negated : Bool)
deriving DecidableEq, Repr

inductive Anchor where
  | lineStart
  | lineStop
  | textStart
  | textStop
  | boundary
  | insideWord
deriving DecidableEq, Repr

inductive Greed where
  | greedy
  | lazy
  | possessive
deriving DecidableEq, Repr

inductive Node where
  | code (c : Nat) (negated : Bool)
  | any
  | set (negated : Bool) (items : List SetItem)
  | anchor (a : Anchor)
  | back (group : Nat) (width : Nat × Nat)
  | group (index : Option Nat) (added removed : Flags) (body : List Node)
  | atomic (body : List Node)
  | look (behind positive : Bool) (body : List Node)
  | choice (alternatives : List (List Node))
  | ifGroup (group : Nat) (yes : List Node) (no : Option (List Node))
  | repeated (greed : Greed) (least : Nat) (most : Option Nat) (body : List Node)

/-- Repetitions stay below this count, and no match is counted wider. -/
def maxRepeat : Nat := 0xffffffff

mutual

/-- The least and greatest number of characters that a match can have. In a sequence the least number stays below
`maxRepeat`, so that a sequence too wide to count has no fixed width. -/
def Node.width : Node → Nat × Nat
  | .code _ _ | .any | .set _ _ => (1, 1)
  | .anchor _ | .look _ _ _ => (0, 0)
  | .back _ width => width
  | .group _ _ _ body | .atomic body => widthAll body
  | .choice alternatives =>
    match widthChoices alternatives with
    | some width => width
    | none => (0, 0)
  | .ifGroup _ yes no =>
    let (low, high) := widthAll yes
    match no with
    | none => (0, high)
    | some other =>
      let (low', high') := widthAll other
      (min low low', max high high')
  | .repeated _ least most body =>
    let (low, high) := widthAll body
    (low * least,
      match most with
      | some n => high * n
      | none => high * maxRepeat)

def widthAll : List Node → Nat × Nat
  | [] => (0, 0)
  | n :: rest =>
    let (low, high) := n.width
    let (low', high') := widthAll rest
    (min (low + low') (maxRepeat - 1), min (high + high') maxRepeat)

def widthChoices : List (List Node) → Option (Nat × Nat)
  | [] => none
  | body :: rest =>
    let (low, high) := widthAll body
    match widthChoices rest with
    | none => some (low, high)
    | some (low', high') => some (min low low', max high high')

end

end CaptionAnimation.Pattern
