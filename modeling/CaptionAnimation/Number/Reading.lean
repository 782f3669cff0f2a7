import CaptionAnimation.Number.Basic
import CaptionAnimation.Text.Blank
import CaptionAnimation.Text.Digit

/-! # Reading numerals

Numerals in text handed in by callers: decimal digits of any script, blanks around them, single underscores
between digits, and for doubles a fraction, an exponent, or one of the words for infinity and undefined. -/
namespace CaptionAnimation.Numeral

/-- Digits of every script as ASCII digits, and blanks of every script as spaces. A text that is all ASCII
stays as it is. -/
def normalize (cs : List Char) : List Char :=
  if cs.all (·.toNat < 128) then cs
  else cs.map fun c =>
    if c.toNat < 127 then c
    else if Text.isBlank c then ' '
    else match Text.digitValue? c with
      | some d => Char.ofNat ('0'.toNat + d)
      | none => '?'

/-- The text without the ASCII blanks around it. -/
def strip (cs : List Char) : List Char :=
  ((cs.dropWhile Text.isAsciiBlank).reverse.dropWhile Text.isAsciiBlank).reverse

/-- Takes out underscores, each of which must stand between two digits. -/
def dropUnderscores (before : Option Char) : List Char → Option (List Char)
  | [] => some []
  | '_' :: rest =>
    if (before.any Text.isAsciiDigit) && (rest.head?.any Text.isAsciiDigit) then dropUnderscores (some '_') rest
    else none
  | c :: rest => (c :: ·) <$> dropUnderscores (some c) rest

/-- Splits off a sign. -/
def sign : List Char → Bool × List Char
  | '-' :: rest => (true, rest)
  | '+' :: rest => (false, rest)
  | cs => (false, cs)

/-- The value of a run of digits. -/
def natOf (digits : List Char) : Nat :=
  digits.foldl (fun n c => 10 * n + (c.toNat - '0'.toNat)) 0

/-- The double nearest to `n * 10 ^ e`. -/
def scaled (negative : Bool) (n : Nat) (e : Int) : Float :=
  let size : Int := (n.log2 : Int) * 30103 / 100000 + e
  if n = 0 || size < -330 then Double.nearest negative 0 1
  else if size > 310 then Double.nearest negative (twoTo 1024) 1
  else if 0 ≤ e then Double.nearest negative (n * tenTo e.toNat) 1
  else Double.nearest negative n (tenTo (-e).toNat)

/-- An optional exponent at the end of a decimal. -/
def exponent? : List Char → Option Int
  | [] => some 0
  | c :: rest =>
    if c == 'e' || c == 'E' then
      let (negative, digits) := sign rest
      if digits.isEmpty || !digits.all Text.isAsciiDigit then none
      else some (if negative then -(natOf digits : Int) else natOf digits)
    else none

/-- Digits with an optional fraction and exponent, without sign. -/
def decimal? (negative : Bool) (cs : List Char) : Option Float :=
  let whole := cs.takeWhile Text.isAsciiDigit
  let rest := cs.dropWhile Text.isAsciiDigit
  let (fraction, rest) := match rest with
    | '.' :: more => (more.takeWhile Text.isAsciiDigit, more.dropWhile Text.isAsciiDigit)
    | other => ([], other)
  if whole.isEmpty && fraction.isEmpty then none
  else (exponent? rest).map fun e => scaled negative (natOf (whole ++ fraction)) (e - fraction.length)

/-- A double in plain form: signed, without blanks. -/
def plainFloat? (cs : List Char) : Option Float :=
  let (negative, body) := sign cs
  let word := String.ofList (body.map Char.toLower)
  if word == "inf" || word == "infinity" then some (if negative then -1.0 / 0.0 else 1.0 / 0.0)
  else if word == "nan" then some (0.0 / 0.0)
  else decimal? negative body

/-- Reads a double. -/
def float (text : String) : Except Fault Float :=
  match (dropUnderscores none (strip (normalize text.toList))).bind plainFloat? with
  | some x => .ok x
  | none => .error (.notFloatText text)

/-- Reads an integer. The limit of digits holds for the digits at the beginning, whatever follows them. -/
def integer (text : String) : Except Fault Int :=
  let (negative, body) := sign (strip (normalize text.toList))
  let inRun (c : Char) : Bool := Text.isAsciiDigit c || c == '_'
  match dropUnderscores none (body.takeWhile inRun) with
  | some digits =>
    if digits.isEmpty then .error (.notIntegerText text)
    else if digits.length > Number.digitLimit then .error (.numeralTooLong digits.length)
    else if !(body.dropWhile inRun).isEmpty then .error (.notIntegerText text)
    else .ok (if negative then -(natOf digits : Int) else natOf digits)
  | none => .error (.notIntegerText text)

end CaptionAnimation.Numeral
