import CaptionAnimation.Selection.Options
import CaptionAnimation.Selection.Verdict

/-! # Runs over a transcript

Judges a template's rules at every word of a transcript, in document order. Words may be skipped for their low
confidence; a word whose rules cannot be judged costs no other word its animations. -/
namespace CaptionAnimation

/-- A word at its place in a transcript. -/
structure PlacedWord where
  word : Word
  segment : Segment
  segmentIndex : Nat
  /-- The index of the word in its segment. -/
  position : Nat
  /-- The running index of the word over the whole transcript. -/
  wordIndex : Nat

namespace PlacedWord

def id (p : PlacedWord) : String := p.word.idAt p.segmentIndex p.position

/-- What expressions see at the word. -/
def context (p : PlacedWord) (t : Transcript) (bindings : Entries) : Context :=
  { transcript := t, bindings, word := some p.word, segment := some p.segment
    wordIndex := p.wordIndex, segmentIndex := p.segmentIndex, position := p.position
    totalWords := t.words.length, totalSegments := t.segments.length, wordId := some p.id }

end PlacedWord

namespace Transcript

/-- The words of a segment from a position on. -/
def placeWords (segment : Segment) (segmentIndex : Nat) : (position wordIndex : Nat) → List Word → List PlacedWord
  | _, _, [] => []
  | position, wordIndex, w :: rest =>
    ⟨w, segment, segmentIndex, position, wordIndex⟩ :: placeWords segment segmentIndex (position + 1) (wordIndex + 1) rest

/-- The words of segments from an index on. -/
def placeSegments : (segmentIndex wordIndex : Nat) → List Segment → List PlacedWord
  | _, _, [] => []
  | segmentIndex, wordIndex, s :: rest =>
    placeWords s segmentIndex 0 wordIndex s.words
      ++ placeSegments (segmentIndex + 1) (wordIndex + s.words.length) rest

/-- Every word with its place, in document order. -/
def placedWords (t : Transcript) : List PlacedWord := placeSegments 0 0 t.segments

end Transcript

/-- A rule applied to a word. -/
structure Applied where
  rule : CompiledRule
  wordId : String
  strength : Float

namespace Applied

def animation (a : Applied) : Animation := a.rule.rule.animation

end Applied

/-- The animations selected for one word. -/
structure WordSelection where
  wordId : String
  winners : List Winner

structure Counters where
  rulesEvaluated : Nat := 0
  animationsApplied : Nat := 0
  wordsProcessed : Nat := 0
  wordsSkipped : Nat := 0
deriving DecidableEq, Repr

/-- What applying a template gives. -/
structure Application where
  applied : List Applied := []
  errors : List String := []
  warnings : List String := []
  counters : Counters := {}
  /-- False only when the limit of time cut the run short. -/
  completed : Bool := true
  /-- The selection of every word, when it is asked for. -/
  selections : Option (List WordSelection) := none

namespace Application

def success (a : Application) : Bool := a.errors.isEmpty

/-- An application that could not begin. -/
def refused (errors warnings : List String) : Application := { errors, warnings }

/-- Skips a word. -/
def skip (a : Application) : Application :=
  { a with counters := { a.counters with wordsSkipped := a.counters.wordsSkipped + 1 } }

/-- Reports a word whose rules could not be judged. -/
def fail (a : Application) (wordId : String) (f : Fault) : Application :=
  { a with errors := a.errors ++ ["Failed to select animations for word " ++ wordId ++ ": " ++ f.message] }

/-- The warnings of a verdict: one for each rule that failed, then one for each conflict. -/
def verdictWarnings (wordId : String) (v : Verdict) : List String :=
  v.errors.map (fun e => "Rule '" ++ e.rule ++ "' failed for word " ++ wordId ++ ": " ++ e.message)
    ++ v.conflicts.map fun c => "Rule conflict for word " ++ wordId ++ ": " ++ ", ".intercalate c.rules

/-- Adds the verdict on a word. -/
def add (a : Application) (wordId : String) (v : Verdict) : Application :=
  { a with
    applied := a.applied ++ v.winners.map fun w => ⟨w.rule, wordId, w.strength⟩
    warnings := a.warnings ++ verdictWarnings wordId v
    counters := { a.counters with
      rulesEvaluated := a.counters.rulesEvaluated + v.stats.evaluations
      animationsApplied := a.counters.animationsApplied + v.winners.length
      wordsProcessed := a.counters.wordsProcessed + 1 }
    selections := a.selections.map (· ++ [⟨wordId, v.winners⟩]) }

/-- Ends a run at a word because its time is up. -/
def cut (a : Application) (deadline : String) (wordIndex totalWords : Nat) : Application :=
  { a with
    completed := false
    warnings := a.warnings ++ ["Processing deadline of " ++ deadline ++ "ms exceeded after " ++ toString wordIndex
      ++ " of " ++ toString totalWords ++ " words; result is partial"] }

end Application

/-- What stays the same during a run. -/
structure Course where
  helpers : Registry
  transcript : Transcript
  bindings : Entries
  rules : List CompiledRule
  options : Options

namespace Course

/-- Judges the rules at one word. -/
def judge (c : Course) (l : Ledger) (p : PlacedWord) : Ledger × Except Fault Verdict :=
  l.judge { context := p.context c.transcript c.bindings, helpers := c.helpers } c.rules

/-- Takes the words one after the other. A limit of time that is no number is a fault once a word is reached. -/
def runFrom (c : Course) : List PlacedWord → Ledger → Application → Ledger × Except Fault Application
  | [], l, a => (l, .ok a)
  | p :: rest, l, a =>
    match c.options.overdue with
    | .error f => (l, .error f)
    | .ok true =>
      match c.options.deadline.plain with
      | .ok shown => (l, .ok (a.cut shown p.wordIndex c.transcript.words.length))
      | .error f => (l, .error f)
    | .ok false =>
      if c.options.skips p.word then c.runFrom rest l a.skip
      else
        match c.judge l p with
        | (l, .ok v) => c.runFrom rest l (a.add p.id v)
        | (l, .error f) => c.runFrom rest l (a.fail p.id f)

/-- Runs over the whole transcript, after the warnings about variables. -/
def run (c : Course) (l : Ledger) (warnings : List String) : Ledger × Except Fault Application :=
  c.runFrom c.transcript.placedWords l
    { warnings, selections := if c.options.debugInfo.truthy then some [] else none }

end Course
end CaptionAnimation
