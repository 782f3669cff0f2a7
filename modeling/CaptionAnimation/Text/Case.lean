import CaptionAnimation.Text.CaseTable
import CaptionAnimation.Text.Range

/-! # Upper and lower case

Full case mapping of whole texts: one character may become several, and a capital sigma becomes its final
form at the end of a word. `lowerSimple` and `upperSimple` map one character to one character. -/
namespace CaptionAnimation.Text

/-- The image of code point `n` under a list of runs. -/
def mapRuns : List (Nat × Nat × Nat × Nat) → Nat → Nat
  | [], n => n
  | (first, last, step, image) :: rest, n =>
    if n < first then n
    else if n ≤ last && (n - first) % step == 0 then image + (n - first)
    else mapRuns rest n

/-- The lower-case form of one character as one character. -/
def lowerSimple (c : Char) : Char :=
  if c == 'İ' then 'i' else Char.ofNat (mapRuns lowerRuns c.toNat)

/-- The characters of the upper-case form of one character. -/
def upperOf (c : Char) : List Char :=
  match upperExpansions.find? (·.1 == c.toNat) with
  | some (_, image) => image.map Char.ofNat
  | none => [Char.ofNat (mapRuns upperRuns c.toNat)]

/-- The characters of the lower-case form of one character, wherever it stands. -/
def lowerOf (c : Char) : List Char :=
  if c == 'İ' then ['i', '\u0307'] else [Char.ofNat (mapRuns lowerRuns c.toNat)]

def isCased (c : Char) : Bool := inRanges casedRanges c.toNat

def isCaseIgnorable (c : Char) : Bool := inRanges caseIgnorableRanges c.toNat

/-- Whether the nearest character that a sigma does not look past has case. -/
def meetsCased (neighbours : List Char) : Bool :=
  match neighbours.dropWhile isCaseIgnorable with
  | [] => false
  | c :: _ => isCased c

/-- The lower-case form of a text; `before` holds the characters already passed, nearest first. -/
def lowerFrom (before : List Char) : List Char → List Char
  | [] => []
  | c :: rest =>
    if c == 'Σ' then
      (if meetsCased before && !meetsCased rest then 'ς' else 'σ') :: lowerFrom (c :: before) rest
    else lowerOf c ++ lowerFrom (c :: before) rest

def lower (text : List Char) : List Char := lowerFrom [] text

def upper (text : List Char) : List Char := text.flatMap upperOf

end CaptionAnimation.Text
