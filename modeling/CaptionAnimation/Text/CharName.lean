import CaptionAnimation.Text.CharName.Alias
import CaptionAnimation.Text.CharName.From0000
import CaptionAnimation.Text.CharName.From0590
import CaptionAnimation.Text.CharName.From1000
import CaptionAnimation.Text.CharName.From2000
import CaptionAnimation.Text.CharName.From2C00
import CaptionAnimation.Text.CharName.FromA000
import CaptionAnimation.Text.CharName.FromF900
import CaptionAnimation.Text.CharName.From11000
import CaptionAnimation.Text.CharName.From12000
import CaptionAnimation.Text.CharName.From16000
import CaptionAnimation.Text.CharName.From1D000
import CaptionAnimation.Text.CharName.From1E000
import CaptionAnimation.Text.CharName.From1F300
import CaptionAnimation.Text.Digit
import CaptionAnimation.Text.Range

/-! # Names of characters

Which character a name means, after the Unicode character database, version 14. Most names are listed. Some characters
are named by their code points, and Hangul syllables by the letters they are made of. The names of unified ideographs
and of Hangul syllables are read in upper case only, all others in either case. -/
namespace CaptionAnimation.Text.CharName

/-- All listed names. -/
def listed : List (Nat × List String) :=
  [from0000, from0590, from1000, from2000, from2C00, fromA000, fromF900, from11000, from12000, from16000, from1D000,
    from1E000, from1F300].flatten

/-- The words of a listed name, after those of the name before it. -/
def wordsAfter (before : List (List Char)) : List Char → List (List Char)
  | [] => before
  | kept :: further =>
    before.take ((digitValue? kept).getD 0) ++ (if further.isEmpty then [] else further.splitOn ' ')

/-- The code point of a name in a run of names that begins at `code`. -/
def codeInRun? (name : List (List Char)) : (code : Nat) → (before run : List (List Char)) → Option Nat
  | _, _, [] => none
  | code, before, entry :: rest =>
    let words := wordsAfter before entry
    if words == name then some code else codeInRun? name (code + 1) words rest

def ofListed? (name : List Char) : Option Nat :=
  listed.findSome? fun (first, lines) =>
    codeInRun? (name.splitOn ' ') first [] (lines.flatMap fun line => line.toList.splitOn ';')

def ofAlias? (name : List Char) : Option Nat :=
  (aliases.find? fun (_, names) => (names.toList.splitOn ';').contains name).map Prod.fst

/-- Four or five hexadecimal digits in upper case after a title and a hyphen. -/
def numberAfter? (title : String) (name : List Char) : Option (List Char) :=
  let start := title.toList ++ ['-']
  let digits := name.drop start.length
  if start.isPrefixOf name && (digits.length == 4 || digits.length == 5)
    && digits.all (fun c => (hexValue? c).isSome && !c.isLower)
  then some digits else none

def hexNumber (digits : List Char) : Nat := digits.foldl (fun n c => 16 * n + (hexValue? c).getD 0) 0

/-- Titles of characters that are named by their code points, with the ranges of these. -/
def numbered : List (String × List (Nat × Nat)) :=
  [("CJK COMPATIBILITY IDEOGRAPH", [(0xf900, 0xfa6d), (0xfa70, 0xfad9), (0x2f800, 0x2fa1d)]),
   ("KHITAN SMALL SCRIPT CHARACTER", [(0x18b00, 0x18cd5)]), ("NUSHU CHARACTER", [(0x1b170, 0x1b2fb)])]

def ofNumbered? (name : List Char) : Option Nat :=
  numbered.findSome? fun (title, ranges) => do
    let digits ← numberAfter? title name
    if digits.head? != some '0' && inRanges ranges (hexNumber digits) then some (hexNumber digits) else none

def unifiedIdeographs : List (Nat × Nat) :=
  [(0x3400, 0x4dbf), (0x4e00, 0x9fff), (0x20000, 0x2a6df), (0x2a700, 0x2b738), (0x2b740, 0x2b81d), (0x2b820, 0x2cea1),
   (0x2ceb0, 0x2ebe0), (0x30000, 0x3134a)]

/-- The code point of a unified ideograph; a number of five digits may begin with zero. -/
def ofIdeograph? (name : List Char) : Option Nat := do
  let digits ← numberAfter? "CJK UNIFIED IDEOGRAPH" name
  if inRanges unifiedIdeographs (hexNumber digits) then some (hexNumber digits) else none

/-- The leading consonants of Hangul syllables, in order. -/
def leads : List String :=
  ["G", "GG", "N", "D", "DD", "R", "M", "B", "BB", "S", "SS", "", "J", "JJ", "C", "K", "T", "P", "H"]

/-- The vowels of Hangul syllables, in order. -/
def vowels : List String :=
  ["A", "AE", "YA", "YAE", "EO", "E", "YEO", "YE", "O", "WA", "WAE", "OE", "YO", "U", "WEO", "WE", "WI", "YU", "EU",
    "YI", "I"]

/-- The trailing consonants of Hangul syllables, in order. -/
def trails : List String :=
  ["", "G", "GG", "GS", "N", "NJ", "NH", "D", "L", "LG", "LM", "LB", "LS", "LT", "LP", "LH", "M", "B", "BS", "S", "SS",
    "NG", "J", "C", "K", "T", "P", "H"]

/-- The place of the longest letter that the characters begin with, and the other characters. -/
def takeLetter? (letters : List String) (cs : List Char) : Option (Nat × List Char) :=
  let fits := letters.zipIdx.filter fun (letter, _) => letter.toList.isPrefixOf cs
  (fits.foldl longer none).map fun (letter, place) => (place, cs.drop letter.length)
where
  longer (best : Option (String × Nat)) (l : String × Nat) : Option (String × Nat) :=
    if best.all fun b => b.1.length < l.1.length then some l else best

/-- The code point of a Hangul syllable: by its leading consonant, vowel and trailing consonant. -/
def ofSyllable? (name : List Char) : Option Nat := do
  let title := "HANGUL SYLLABLE ".toList
  if !title.isPrefixOf name then none
  let (lead, rest) ← takeLetter? leads (name.drop title.length)
  let (vowel, rest) ← takeLetter? vowels rest
  let (trail, rest) ← takeLetter? trails rest
  if rest.isEmpty then some (0xac00 + (lead * vowels.length + vowel) * trails.length + trail) else none

/-- The code point of the character with a name. -/
def code? (name : List Char) : Option Nat :=
  let upper := name.map Char.toUpper
  ofSyllable? name <|> ofIdeograph? name <|> ofNumbered? upper <|> ofListed? upper <|> ofAlias? upper

end CaptionAnimation.Text.CharName
