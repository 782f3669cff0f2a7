import CaptionAnimation.Pattern.Syntax
import CaptionAnimation.Text.Alphanumeric
import CaptionAnimation.Text.Blank
import CaptionAnimation.Text.Case
import CaptionAnimation.Text.Digit

/-! # Which characters match

Character classes and sets, with and without regard to case. Without regard to case, characters match when their
lower-case forms agree or share an upper-case form. -/
namespace CaptionAnimation.Pattern

open Text

/-- Lower-case letters that share their upper-case form with other lower-case letters. -/
def caseMates : List (List Nat) :=
  [[0x69, 0x131], [0x73, 0x17f], [0xb5, 0x3bc], [0x345, 0x3b9, 0x1fbe], [0x390, 0x1fd3], [0x3b0, 0x1fe3],
   [0x3b2, 0x3d0], [0x3b5, 0x3f5], [0x3b8, 0x3d1], [0x3ba, 0x3f0], [0x3c0, 0x3d6], [0x3c1, 0x3f1], [0x3c2, 0x3c3],
   [0x3c6, 0x3d5], [0x432, 0x1c80], [0x434, 0x1c81], [0x43e, 0x1c82], [0x441, 0x1c83], [0x442, 0x1c84, 0x1c85],
   [0x44a, 0x1c86], [0x463, 0x1c87], [0x1c88, 0xa64b], [0x1e61, 0x1e9b], [0xfb05, 0xfb06]]

/-- A lower-case letter together with its mates. -/
def matesOf (c : Nat) : List Nat := (caseMates.find? (·.contains c)).getD [c]

/-- Lower case within the alphabet in force. -/
def lowerCode (f : Flags) (c : Nat) : Nat :=
  if f.ascii then (if 0x41 ≤ c && c ≤ 0x5a then c + 32 else c)
  else if 0xd800 ≤ c && c ≤ 0xdfff then c
  else (lowerSimple (Char.ofNat c)).toNat

def upperCode (c : Nat) : Nat :=
  if 0xd800 ≤ c && c ≤ 0xdfff then c else ((upperOf (Char.ofNat c)).head?.getD 'A').toNat

/-- The lower-case letters that count as the same as `c`. -/
def matesIn (f : Flags) (c : Nat) : List Nat := if f.ascii then [c] else matesOf c

def classHolds (f : Flags) (k : Class) (c : Char) : Bool :=
  if f.ascii then
    match k with
    | .digit => isAsciiDigit c
    | .space => isAsciiBlank c
    | .word => c.isAlphanum || c == '_'
  else
    match k with
    | .digit => (digitValue? c).isSome
    | .space => isBlank c
    | .word => isAlphanumeric c || c == '_'

def isWordChar (f : Flags) (c : Char) : Bool := classHolds f .word c

/-- Whether a single character of the pattern matches `c`. -/
def matchesCode (f : Flags) (code : Nat) (c : Char) : Bool :=
  if f.ignoreCase then (matesIn f (lowerCode f code)).contains (lowerCode f c.toNat) else code == c.toNat

/-- The code points whose lower-case form is `c`. -/
def lowerSources (f : Flags) (c : Nat) : List Nat :=
  if f.ascii then
    (if lowerCode f c = c then [c] else []) ++ (if 0x61 ≤ c && c ≤ 0x7a then [c - 32] else [])
  else
    let self := if lowerCode f c = c then [c] else []
    let dotted := if c = 0x69 then [0x130] else []
    self ++ dotted ++ lowerRuns.filterMap fun (first, last, step, image) =>
      if image ≤ c && c ≤ image + (last - first) && (c - image) % step == 0 then some (first + (c - image)) else none

/-- Whether a range matches a lower-case code point when case is disregarded. Beyond the basic plane a range is
compared with the letter and its upper-case form. -/
def rangeMatchesLower (f : Flags) (low high c : Nat) : Bool :=
  ((matesIn f c).any fun mate =>
    (lowerSources f mate).any fun source => low ≤ source && source ≤ min high 0xffff)
  || (high > 0xffff && ((low ≤ c && c ≤ high) || (low ≤ upperCode c && upperCode c ≤ high)))

/-- Whether an item of a set matches `c`. Without regard to case, a code point beyond the basic plane stands for
itself only. -/
def SetItem.matches (f : Flags) (c : Char) : SetItem → Bool
  | .code k =>
    if !f.ignoreCase then k == c.toNat
    else if k > 0xffff then k == lowerCode f c.toNat
    else matchesCode f k c
  | .range low high =>
    if f.ignoreCase then rangeMatchesLower f low high (lowerCode f c.toNat) else low ≤ c.toNat && c.toNat ≤ high
  | .inClass k negated => classHolds f k c != negated

end CaptionAnimation.Pattern
