import CaptionAnimation.Number.Reading
import CaptionAnimation.Pattern.Alternatives
import CaptionAnimation.Text.Blank
import CaptionAnimation.Text.CharName
import CaptionAnimation.Text.Identifier
import CaptionAnimation.Text.Quoted

/-! # Reading patterns

The source of a pattern is read unit by unit; a unit is one character, or a backslash and the character after it.
The unit after the current one is always read ahead. Reading stops at the first error, which names its offset in the
source. -/
namespace CaptionAnimation.Pattern

/-- Why a source is no pattern. -/
inductive Flaw where
  | at (reason : String) (offset : Nat)
  | whole (reason : String)
  | repetitionTooLarge
  | mixedAlphabets
  | looksTooFarBehind

/-- The state of a reader. -/
structure Cursor where
  /-- The unit read ahead. -/
  next : List Char
  /-- What follows it. -/
  rest : List Char
  /-- The offset of what follows it. -/
  index : Nat
  flags : Flags
  names : List (String × Nat) := []
  /-- The widths of the groups so far; an open group has none. -/
  widths : List (Option (Nat × Nat)) := []
  /-- The number of groups at the beginning of the outermost assertion that looks behind. -/
  behindGroups : Option Nat := none
  /-- Groups that conditions refer to by number, and where. -/
  conditionGroups : List (Nat × Nat) := []

abbrev Read := StateT Cursor (Except Flaw)

def fail (reason : String) (offset : Nat) : Read α := throw (.at reason offset)

/-- Splits off the next unit. -/
def nextUnit (index : Nat) : List Char → Except Flaw (List Char × List Char × Nat)
  | [] => .ok ([], [], index)
  | ['\\'] => .error (.at "bad escape (end of pattern)" index)
  | '\\' :: c :: rest => .ok (['\\', c], rest, index + 2)
  | c :: rest => .ok ([c], rest, index + 1)

/-- Takes the current unit and reads the next one ahead. -/
def take : Read (List Char) := do
  let s ← get
  match nextUnit s.index s.rest with
  | .ok (next, rest, index) => set { s with next, rest, index }
  | .error e => throw e
  return s.next

/-- The offset of the current unit. -/
def tell : Read Nat := do
  let s ← get
  return s.index - s.next.length

/-- Fails so many characters before the current unit. -/
def failBack (reason : String) (distance : Nat) : Read α := do
  fail reason ((← tell) - distance)

def peek : Read (List Char) := do return (← get).next

/-- Takes the current unit if it is the character `c`. -/
def takeIf (c : Char) : Read Bool := do
  if (← peek) == [c] then
    let _ ← take
    return true
  else return false

def isOctal (c : Char) : Bool := '0' ≤ c && c ≤ '7'

def isHex (c : Char) : Bool := (Text.hexValue? c).isSome

def valueIn (base : Nat) (digits : List Char) : Nat :=
  digits.foldl (fun n c => base * n + (Text.hexValue? c).getD 0) 0

/-- Takes at most so many units that are characters of a class. -/
def takeWhileUpTo (ok : Char → Bool) : Nat → Read (List Char)
  | 0 => return []
  | n + 1 => do
    match ← peek with
    | [c] =>
      if ok c then
        let _ ← take
        return c :: (← takeWhileUpTo ok n)
      else return []
    | _ => return []

/-- Takes units up to a closing character; the name between must not be empty. -/
def takeUntil (close : Char) (what : String) : Nat → List Char → Read (List Char)
  | 0, _ => failBack ("missing " ++ what) 0
  | fuel + 1, taken => do
    match ← take with
    | [] =>
      if taken.isEmpty then failBack ("missing " ++ what) 0
      else failBack ("missing " ++ String.singleton close ++ ", unterminated name") taken.length
    | unit =>
      if unit == [close] then
        if taken.isEmpty then failBack ("missing " ++ what) 1 else return taken
      else takeUntil close what fuel (taken ++ unit)

def takeName (close : Char) (what : String) : Read (List Char) := do
  takeUntil close what ((← get).rest.length + 2) []

def checkName (name : List Char) (distance : Nat) : Read Unit := do
  if !Text.isIdentifier name then
    failBack ("bad character in group name " ++ Text.quoted (String.ofList name)) (name.length + distance)

/-- Characters that an escape stands for, both inside and outside sets. -/
def controlEscape? : Char → Option Nat
  | 'a' => some 7
  | 'b' => some 8
  | 'f' => some 12
  | 'n' => some 10
  | 'r' => some 13
  | 't' => some 9
  | 'v' => some 11
  | '\\' => some 92
  | _ => none

def classEscape? : Char → Option SetItem
  | 'd' => some (.inClass .digit false)
  | 'D' => some (.inClass .digit true)
  | 's' => some (.inClass .space false)
  | 'S' => some (.inClass .space true)
  | 'w' => some (.inClass .word false)
  | 'W' => some (.inClass .word true)
  | _ => none

def anchorEscape? : Char → Option Anchor
  | 'A' => some .textStart
  | 'b' => some .boundary
  | 'B' => some .insideWord
  | 'Z' => some .textStop
  | _ => none

def badEscape (escape : List Char) : Read α :=
  failBack ("bad escape " ++ String.ofList escape) escape.length

/-- A code point written with exactly `count` hexadecimal digits. -/
def hexEscape (escape : List Char) (count : Nat) : Read Nat := do
  let digits ← takeWhileUpTo isHex count
  let escape := escape ++ digits
  if digits.length ≠ count then failBack ("incomplete escape " ++ String.ofList escape) escape.length
  let value := valueIn 16 digits
  if value > 0x10ffff then badEscape escape
  return value

/-- A character given by name. -/
def namedEscape : Read Nat := do
  if !(← takeIf '\x7b') then failBack "missing \x7b" 0
  let name ← takeName '\x7d' "character name"
  match Text.CharName.code? name with
  | some code => return code
  | none => failBack ("undefined character name " ++ Text.quoted (String.ofList name)) (name.length + 4)

def octalTooLarge (escape : List Char) : Read α :=
  failBack ("octal escape value " ++ String.ofList escape ++ " outside of range 0-0o377") escape.length

/-- The escapes that mean the same inside and outside sets, apart from those that begin with a digit. -/
def commonEscape (c : Char) : Read Nat := do
  match c with
  | 'x' => hexEscape ['\\', c] 2
  | 'u' => hexEscape ['\\', c] 4
  | 'U' => hexEscape ['\\', c] 8
  | 'N' => namedEscape
  | _ => if c.isAlpha then badEscape ['\\', c] else return c.toNat

/-- An escape inside a set. -/
def setEscape (c : Char) : Read SetItem := do
  match controlEscape? c, classEscape? c with
  | some code, _ => return .code code
  | _, some item => return item
  | none, none =>
    if isOctal c then
      let digits := c :: (← takeWhileUpTo isOctal 2)
      if valueIn 8 digits > 0o377 then octalTooLarge ('\\' :: digits)
      return .code (valueIn 8 digits)
    else if c.isDigit then badEscape ['\\', c]
    else return .code (← commonEscape c)

/-- References must not reach into an assertion that looks behind and is still open. -/
def checkBehind (group : Nat) : Read Unit := do
  let s ← get
  match s.behindGroups with
  | none => return ()
  | some limit =>
    if (s.widths[group]?).bind id |>.isNone then failBack "cannot refer to an open group" 0
    if group ≥ limit then failBack "cannot refer to group defined in the same lookbehind subpattern" 0

/-- A reference to a group that is closed already. -/
def reference (group distance : Nat) : Read Node := do
  match ((← get).widths[group]?).bind id with
  | none => failBack "cannot refer to an open group" distance
  | some width =>
    checkBehind group
    return .back group width

/-- An escape that begins with a digit from 1 to 9: an octal code or a reference. -/
def digitEscape (c : Char) : Read Node := do
  let second ← takeWhileUpTo Char.isDigit 1
  let third ←
    match second with
    | [d] => if isOctal c && isOctal d then takeWhileUpTo isOctal 1 else pure []
    | _ => pure []
  let digits := c :: second ++ third
  if !third.isEmpty then
    if valueIn 8 digits > 0o377 then octalTooLarge ('\\' :: digits)
    return .code (valueIn 8 digits) false
  let group := valueIn 10 digits
  if group < (← get).widths.length then reference group (digits.length + 1)
  else failBack ("invalid group reference " ++ toString group) digits.length

/-- An escape outside sets. -/
def escape (c : Char) : Read Node := do
  match anchorEscape? c, classEscape? c with
  | some a, _ => return .anchor a
  | _, some item => return .set false [item]
  | none, none =>
    match controlEscape? c with
    | some code => return .code code false
    | none =>
      if c == '0' then
        let digits ← takeWhileUpTo isOctal 2
        return .code (valueIn 8 digits) false
      else if c.isDigit then digitEscape c
      else return .code (← commonEscape c) false

/-- One item of a set, from its first unit. -/
def setItem : List Char → Read SetItem
  | ['\\', c] => setEscape c
  | c :: _ => return .code c.toNat
  | [] => return .code 0

/-- The items of a set after its opening bracket, which stands at offset `here`. -/
def setItems (here : Nat) : Nat → List SetItem → Read (List SetItem)
  | 0, _ => fail "unterminated character set" here
  | fuel + 1, items => do
    let unit ← take
    if unit.isEmpty then fail "unterminated character set" here
    if unit == [']'] && !items.isEmpty then return items
    let first ← setItem unit
    if !(← takeIf '-') then setItems here fuel (items ++ [first])
    else
      let unit' ← take
      if unit'.isEmpty then fail "unterminated character set" here
      if unit' == [']'] then return items ++ [first, .code '-'.toNat]
      let second ← setItem unit'
      let bad : Read (List SetItem) :=
        failBack ("bad character range " ++ String.ofList unit ++ "-" ++ String.ofList unit')
          (unit.length + 1 + unit'.length)
      match first, second with
      | .code low, .code high =>
        if high < low then bad else setItems here fuel (items ++ [.range low high])
      | _, _ => bad

/-- A set after its opening bracket. -/
def readSet : Read Node := do
  let here := (← tell) - 1
  let negated ← takeIf '^'
  let items ← setItems here ((← get).rest.length + 3) []
  match items.eraseDups with
  | [.code c] => return .code c negated
  | distinct => return .set negated distinct

/-- A run of digits as a count. -/
def repeatCount (digits : List Char) : Read (Option Nat) := do
  if digits.isEmpty then return none
  let n := valueIn 10 digits
  if n ≥ maxRepeat then throw .repetitionTooLarge
  return some n

/-- The bounds of a counted repetition after its opening brace; `none` when the brace stands for itself. -/
def readBounds : Read (Option (Nat × Option Nat)) := do
  let before ← get
  let here ← tell
  if before.next == ['\x7d'] then return none
  let fuel := before.rest.length + 2
  let low ← takeWhileUpTo Char.isDigit fuel
  let high ← if ← takeIf ',' then takeWhileUpTo Char.isDigit fuel else pure low
  if !(← takeIf '\x7d') then
    set before
    return none
  let least ← repeatCount low
  let most ← repeatCount high
  match most with
  | some n => if n < least.getD 0 then fail "min repeat greater than max repeat" here
  | none => pure ()
  return some (least.getD 0, most)

/-- A flag letter. -/
def flagOf? : Char → Option Flags
  | 'i' => some { ignoreCase := true }
  | 'm' => some { multiline := true }
  | 's' => some { dotAll := true }
  | 'x' => some { spaced := true }
  | 'a' => some { ascii := true }
  | 'u' => some { unicode := true }
  | 't' => some { template := true }
  | _ => none

def isFlagLetter (c : Char) : Bool := c == 'L' || (flagOf? c).isSome

/-- The flag of a letter, refused where it cannot be set. -/
def flagToSet (c : Char) : Read Flags := do
  match flagOf? c with
  | some f => return f
  | none => failBack "bad inline flags: cannot use 'L' flag with a str pattern" 0

/-- Flags to set, up to the unit that ends them. -/
def flagsToSet (c : Char) (added : Flags) : Nat → Read (Flags × Char)
  | 0 => failBack "missing -, : or )" 0
  | fuel + 1 => do
    let added := added.union (← flagToSet c)
    if added.ascii && added.unicode then
      failBack "bad inline flags: flags 'a', 'u' and 'L' are incompatible" 0
    match ← take with
    | [] => failBack "missing -, : or )" 0
    | [d] =>
      if d == ')' || d == '-' || d == ':' then return (added, d)
      else if isFlagLetter d then flagsToSet d added fuel
      else failBack (if Text.isLetter d then "unknown flag" else "missing -, : or )") 1
    | unit => failBack "missing -, : or )" unit.length

/-- Flags to clear, up to the colon. -/
def flagsToClear (c : Char) (removed : Flags) : Nat → Read Flags
  | 0 => failBack "missing :" 0
  | fuel + 1 => do
    if c == 'a' || c == 'u' || c == 'L' then
      failBack "bad inline flags: cannot turn off flags 'a', 'u' and 'L'" 0
    let removed := removed.union (← flagToSet c)
    match ← take with
    | [] => failBack "missing :" 0
    | [d] =>
      if d == ':' then return removed
      else if isFlagLetter d then flagsToClear d removed fuel
      else failBack (if Text.isLetter d then "unknown flag" else "missing :") 1
    | unit => failBack "missing :" unit.length

/-- Inline flags from their first unit; `none` when they hold for the whole pattern. -/
def readFlags (c : Char) : Read (Option (Flags × Flags)) := do
  let fuel := (← get).rest.length + 2
  let (added, stop) ← if c == '-' then pure (Flags.none, '-') else flagsToSet c {} fuel
  if stop == ')' then
    modify fun s => { s with flags := s.flags.union added }
    return none
  if added.template then failBack "bad inline flags: cannot turn on global flag" 1
  let removed ←
    if stop == '-' then do
      match ← take with
      | [] => failBack "missing flag" 0
      | [d] =>
        if isFlagLetter d then flagsToClear d {} fuel
        else failBack (if Text.isLetter d then "unknown flag" else "missing flag") 1
      | unit => failBack "missing flag" unit.length
    else pure Flags.none
  if removed.template then failBack "bad inline flags: cannot turn off global flag" 1
  if added.without removed ≠ added then failBack "bad inline flags: flag turned on and off" 1
  return some (added, removed)

/-- Opens a group and gives its number. -/
def openGroup (name : Option (List Char)) : Read Nat := do
  let s ← get
  let index := s.widths.length
  match name with
  | none => set { s with widths := s.widths ++ [none] }
  | some cs =>
    let text := String.ofList cs
    match s.names.lookup text with
    | some old =>
      failBack ("redefinition of group name " ++ Text.quoted text ++ " as group " ++ toString index
        ++ "; was group " ++ toString old) (cs.length + 1)
    | none => set { s with widths := s.widths ++ [none], names := s.names ++ [(text, index)] }
  return index

def closeGroup (index : Nat) (body : List Node) : Read Unit :=
  modify fun s => { s with widths := s.widths.set index (some (widthAll body)) }

/-- A reference to a named group, after `(?P=`. -/
def namedReference : Read Node := do
  let name ← takeName ')' "group name"
  checkName name 1
  match (← get).names.lookup (String.ofList name) with
  | none => failBack ("unknown group name " ++ Text.quoted (String.ofList name)) (name.length + 1)
  | some group => reference group (name.length + 1)

/-- The group that a condition asks for, after `(?(`. -/
def conditionGroup : Read Nat := do
  let name ← takeName ')' "group name"
  let text := String.ofList name
  let group ←
    if Text.isIdentifier name then
      match (← get).names.lookup text with
      | none => failBack ("unknown group name " ++ Text.quoted text) (name.length + 1)
      | some group => pure group
    else
      match Numeral.integer text with
      | .error _ => failBack ("bad character in group name " ++ Text.quoted text) (name.length + 1)
      | .ok n =>
        if n < 0 then failBack ("bad character in group name " ++ Text.quoted text) (name.length + 1)
        else if n = 0 then failBack "bad group number" (name.length + 1)
        else if n ≥ 1073741823 then failBack ("invalid group reference " ++ toString n) (name.length + 1)
        else
          let here := (← tell) - name.length - 1
          modify fun s =>
            if s.conditionGroups.any (·.1 == n.toNat) then s
            else { s with conditionGroups := s.conditionGroups ++ [(n.toNat, here)] }
          pure n.toNat
  checkBehind group
  return group

/-- Skips a comment that began at offset `start`. -/
def skipComment (start : Nat) : Nat → Read Unit
  | 0 => fail "missing ), unterminated comment" start
  | fuel + 1 => do
    if (← peek).isEmpty then fail "missing ), unterminated comment" start
    if (← take) == [')'] then return () else skipComment start fuel

/-- Skips to the end of the line. -/
def skipLine : Nat → Read Unit
  | 0 => return ()
  | fuel + 1 => do
    let unit ← take
    if unit.isEmpty || unit == ['\n'] then return () else skipLine fuel

def closeParen (start : Nat) : Read Unit := do
  if !(← takeIf ')') then fail "missing ), unterminated subpattern" start

/-- Groups that neither capture nor change flags dissolve into their surroundings. -/
def dissolve (items : List Node) : List Node :=
  items.flatMap fun
    | .group none added removed body =>
      if added = {} ∧ removed = {} then body else [.group none added removed body]
    | item => [item]

/-- What a quantifier repeats. -/
def repeatBody : Node → List Node
  | .group none added removed body =>
    if added = {} ∧ removed = {} then body else [.group none added removed body]
  | item => [item]

/-- The mark that may follow a quantifier. -/
def takeGreed : Read Greed := do
  if ← takeIf '?' then return .lazy
  if ← takeIf '+' then return .possessive
  return .greedy

/-- A quantifier, which began at `start`, after the items so far. -/
def quantify (bounds : Nat × Option Nat) (start : Nat) (items : List Node) : Read (List Node) := do
  match items.getLast? with
  | none | some (.anchor _) => fail "nothing to repeat" start
  | some (.repeated _ _ _ _) => fail "multiple repeat" start
  | some item =>
    return items.dropLast ++ [.repeated (← takeGreed) bounds.1 bounds.2 (repeatBody item)]

/-- What an opening parenthesis begins. -/
inductive Opening where
  | group (index : Option Nat) (added removed : Flags)
  | atomic
  | look (behind positive : Bool)
  | condition (group : Nat)
  /-- Nothing more to read: a finished item, or none for a comment. -/
  | done (item : Option Node)
  /-- Flags for the whole pattern. -/
  | globalFlags

/-- Reads what follows an opening parenthesis at offset `start`. -/
def readOpening (start : Nat) : Read Opening := do
  if !(← takeIf '?') then return .group (some (← openGroup none)) {} {}
  match ← take with
  | [] => failBack "unexpected end of pattern" 0
  | ['P'] =>
    if ← takeIf '<' then
      let name ← takeName '>' "group name"
      checkName name 1
      return .group (some (← openGroup (some name))) {} {}
    else if ← takeIf '=' then return .done (some (← namedReference))
    else
      match ← take with
      | [] => failBack "unexpected end of pattern" 0
      | unit => failBack ("unknown extension ?P" ++ String.ofList unit) (unit.length + 2)
  | [':'] => return .group none {} {}
  | ['#'] =>
    skipComment start ((← get).rest.length + 2)
    return .done none
  | ['='] => return .look false true
  | ['!'] => return .look false false
  | ['<'] =>
    match ← take with
    | [] => failBack "unexpected end of pattern" 0
    | ['='] => return .look true true
    | ['!'] => return .look true false
    | unit => failBack ("unknown extension ?<" ++ String.ofList unit) (unit.length + 2)
  | ['('] => return .condition (← conditionGroup)
  | ['>'] => return .atomic
  | unit =>
    match unit with
    | [c] =>
      if isFlagLetter c || c == '-' then
        match ← readFlags c with
        | none => return .globalFlags
        | some (added, removed) => return .group none added removed
      else failBack ("unknown extension ?" ++ String.ofList unit) (unit.length + 1)
    | _ => failBack ("unknown extension ?" ++ String.ofList unit) (unit.length + 1)

/-- Simple quantifiers. -/
def simpleBounds? : Char → Option (Nat × Option Nat)
  | '?' => some (0, some 1)
  | '*' => some (0, none)
  | '+' => some (1, none)
  | _ => none

mutual

/-- Alternatives between bars. `outer` holds for the pattern as a whole. -/
def readChoice (fuel : Nat) (spaced outer : Bool) : Read (List Node) :=
  match fuel with
  | 0 => return []
  | fuel + 1 => do
    let first ← readItems fuel spaced outer []
    match ← readAlternatives fuel spaced outer with
    | [] => return first
    | more => return alternatives (first :: more)

/-- Further alternatives, each after a bar. -/
def readAlternatives (fuel : Nat) (spaced outer : Bool) : Read (List (List Node)) :=
  match fuel with
  | 0 => return []
  | fuel + 1 => do
    if ← takeIf '|' then
      let state ← get
      let spaced := if outer then state.flags.spaced else spaced
      let items ← readItems fuel spaced false []
      return items :: (← readAlternatives fuel spaced outer)
    else return []

/-- A sequence of items up to a bar, a closing parenthesis or the end. Flags for the whole pattern may stand at the
`front` only. -/
def readItems (fuel : Nat) (spaced front : Bool) (items : List Node) : Read (List Node) :=
  match fuel with
  | 0 => return dissolve items
  | fuel + 1 => do
    match ← peek with
    | [] | ['|'] | [')'] => return dissolve items
    | unit =>
      let start ← tell
      let _ ← take
      let append (item : Node) : Read (List Node) := readItems fuel spaced front (items ++ [item])
      match unit with
      | ['\\', c] => append (← escape c)
      | ['['] => append (← readSet)
      | ['.'] => append .any
      | ['^'] => append (.anchor .lineStart)
      | ['$'] => append (.anchor .lineStop)
      | ['\x7b'] =>
        match ← readBounds with
        | none => append (.code '\x7b'.toNat false)
        | some bounds => readItems fuel spaced front (← quantify bounds start items)
      | ['('] => readGroup fuel spaced front items start
      | c :: _ =>
        match simpleBounds? c with
        | some bounds => readItems fuel spaced front (← quantify bounds start items)
        | none =>
          if spaced && Text.isAsciiBlank c then readItems fuel spaced front items
          else if spaced && c == '#' then
            skipLine ((← get).rest.length + 2)
            readItems fuel spaced front items
          else append (.code c.toNat false)
      | [] => return dissolve items

/-- A parenthesis that opened at offset `start`, and the items after it. -/
def readGroup (fuel : Nat) (spaced front : Bool) (items : List Node) (start : Nat) : Read (List Node) :=
  match fuel with
  | 0 => return dissolve items
  | fuel + 1 => do
    match ← readOpening start with
    | .done item => readItems fuel spaced front (items ++ item.toList)
    | .globalFlags =>
      if !front || !items.isEmpty then fail "global flags not at the start of the expression" start
      readItems fuel (← get).flags.spaced front items
    | .group index added removed =>
      let body ← readChoice fuel ((spaced || added.spaced) && !removed.spaced) false
      closeParen start
      if let some i := index then closeGroup i body
      readItems fuel spaced front (items ++ [.group index added removed body])
    | .atomic =>
      let body ← readChoice fuel spaced false
      closeParen start
      readItems fuel spaced front (items ++ [.atomic body])
    | .look behind positive =>
      let before := (← get).behindGroups
      if behind && before.isNone then modify fun s => { s with behindGroups := some s.widths.length }
      let body ← readChoice fuel spaced false
      if behind && before.isNone then modify fun s => { s with behindGroups := none }
      closeParen start
      readItems fuel spaced front (items ++ [.look behind positive body])
    | .condition group =>
      let yes ← readItems fuel spaced false []
      let no ←
        if ← takeIf '|' then do
          let other ← readItems fuel spaced false []
          if (← peek) == ['|'] then failBack "conditional backref with more than two branches" 0
          pure (some other)
        else pure none
      closeParen start
      readItems fuel spaced front (items ++ [.ifGroup group yes no])

end

def greedName : Greed → String
  | .greedy => "MAX_REPEAT"
  | .lazy => "MIN_REPEAT"
  | .possessive => "POSSESSIVE_REPEAT"

/-- No assertion looks so far behind. -/
def maxBehind : Nat := 0x80000000

mutual

/-- Whether an item holds an assertion that looks too far behind. -/
def Node.looksTooFar : Node → Bool
  | .code _ _ | .any | .set _ _ | .anchor _ | .back _ _ => false
  | .group _ _ _ body | .atomic body | .repeated _ _ _ body => looksTooFarIn body
  | .look behind _ body => (behind && (widthAll body).1 ≥ maxBehind) || looksTooFarIn body
  | .choice alternatives => looksTooFarAmong alternatives
  | .ifGroup _ yes no =>
    looksTooFarIn yes ||
      match no with
      | none => false
      | some other => looksTooFarIn other

def looksTooFarIn : List Node → Bool
  | [] => false
  | n :: rest => n.looksTooFar || looksTooFarIn rest

def looksTooFarAmong : List (List Node) → Bool
  | [] => false
  | body :: rest => looksTooFarIn body || looksTooFarAmong rest

end

mutual

/-- What is wrong with an item that has been read, in the order of its parts. -/
def Node.flaw? (template : Bool) : Node → Option Flaw
  | .code _ _ | .any | .set _ _ | .anchor _ | .back _ _ => none
  | .group _ _ _ body | .atomic body => flawIn? template body
  | .look behind _ body =>
    if behind && (widthAll body).1 ≠ (widthAll body).2 then
      some (.whole "look-behind requires fixed-width pattern")
    else flawIn? template body
  | .choice alternatives => flawAmong? template alternatives
  | .ifGroup _ yes no =>
    (flawIn? template yes).or <|
      match no with
      | none => none
      | some other => flawIn? template other
  | .repeated greed _ _ body =>
    if template then some (.whole ("internal: unsupported template operator " ++ greedName greed))
    else flawIn? template body

def flawIn? (template : Bool) : List Node → Option Flaw
  | [] => none
  | n :: rest => (n.flaw? template).or (flawIn? template rest)

def flawAmong? (template : Bool) : List (List Node) → Option Flaw
  | [] => none
  | body :: rest => (flawIn? template body).or (flawAmong? template rest)

end

/-- A pattern and the flags it holds under. -/
structure Compiled where
  flags : Flags
  body : List Node

/-- Reads a pattern under given flags. -/
def compile (source : String) (flags : Flags) : Except Flaw Compiled := do
  let cs := source.toList
  let (next, rest, index) ← nextUnit 0 cs
  let start : Cursor := { next, rest, index, flags, widths := [none] }
  let (body, s) ← (readChoice (4 * cs.length + 8) flags.spaced true).run start
  if s.flags.ascii && s.flags.unicode then throw .mixedAlphabets
  if !s.next.isEmpty then throw (.at "unbalanced parenthesis" (s.index - s.next.length))
  match s.conditionGroups.find? fun g => g.1 ≥ s.widths.length with
  | some (group, here) => throw (.at ("invalid group reference " ++ toString group) here)
  | none => pure ()
  match flawIn? s.flags.template body with
  | some flaw => throw flaw
  | none => if looksTooFarIn body then throw .looksTooFarBehind else return ⟨s.flags, body⟩

/-- The wording of a flaw at an offset; a source of several lines adds line and column. -/
def locate (source : String) (reason : String) (offset : Nat) : String :=
  let before := source.toList.take offset
  let line := before.count '\n' + 1
  let column := (before.reverse.takeWhile (· != '\n')).length + 1
  reason ++ " at position " ++ toString offset
    ++ (if source.toList.contains '\n' then
          " (line " ++ toString line ++ ", column " ++ toString column ++ ")"
        else "")

end CaptionAnimation.Pattern
