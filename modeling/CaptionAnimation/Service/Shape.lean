import CaptionAnimation.Number.Arithmetic
import CaptionAnimation.Number.Reading
import CaptionAnimation.Value.Equality

/-! # Shapes of requests

What a request body must look like. Reading a body against a shape converts what can be converted without doubt and
fills in defaults, or lists every place that does not fit. -/
namespace CaptionAnimation.Service

/-- Why a place does not fit. -/
inductive Mismatch where
  | missing
  | notText
  | notNumber
  | notNumeral
  | notInteger
  | notIntegral
  | notIntegerNumeral
  | integerTooLong
  | notFinite
  | notSwitch
  | notSwitchWord
  | notList
  | notMap
  | notObject
  | tooSmall
  | notAbove
  | tooGreat
deriving DecidableEq, Repr

def Mismatch.name : Mismatch → String
  | missing => "missing"
  | notText => "string_type"
  | notNumber => "float_type"
  | notNumeral => "float_parsing"
  | notInteger => "int_type"
  | notIntegral => "int_from_float"
  | notIntegerNumeral => "int_parsing"
  | integerTooLong => "int_parsing_size"
  | notFinite => "finite_number"
  | notSwitch => "bool_type"
  | notSwitchWord => "bool_parsing"
  | notList => "list_type"
  | notMap => "dict_type"
  | notObject => "model_attributes_type"
  | tooSmall => "greater_than_equal"
  | notAbove => "greater_than"
  | tooGreat => "less_than_equal"

/-- A place in a body that does not fit. -/
structure Misfit where
  path : List String
  reason : Mismatch
deriving DecidableEq, Repr

/-- A limit on numbers. -/
inductive Bound where
  | atMost (limit : Int)
  | atLeast (limit : Int)
  | above (limit : Int)

inductive Shape where
  | anything
  | text
  | number (bounds : List Bound)
  | integer (bounds : List Bound)
  | switch
  /-- Null, or the inner shape. -/
  | optional (inner : Shape)
  | list (item : Shape)
  /-- A map with any keys. -/
  | table (item : Shape)
  /-- Fields with a name, a second spelling, a shape, and a default unless they are required. Other fields are
  dropped or kept. -/
  | object (keepsOthers : Bool) (fields : List (String × Option String × Shape × Option Value))

abbrev Reading := Except (List Misfit) Value

namespace Shape

/-- The first bound that a number does not keep; a number that is undefined keeps none. -/
def broken? (bounds : List Bound) (n : Number) : Option Mismatch :=
  bounds.findSome? fun
    | .atMost limit => if n.le (.int limit) then none else some .tooGreat
    | .atLeast limit => if (Number.int limit).le n then none else some .tooSmall
    | .above limit => if (Number.int limit).lt n then none else some .notAbove

def bounded (bounds : List Bound) (n : Number) : Except Mismatch Value :=
  match broken? bounds n with
  | some reason => .error reason
  | none => .ok (.number n)

/-- White space around numerals in requests. -/
def isWhite (c : Char) : Bool := Text.isBlank c && !(0x1c ≤ c.toNat && c.toNat ≤ 0x1f)

def stripped (cs : List Char) : List Char := ((cs.dropWhile isWhite).reverse.dropWhile isWhite).reverse

/-- A numeral without its underscores, none of which may stand at an end or beside another. -/
def withoutUnderscores? (cs : List Char) : Option (List Char) :=
  let doubled := (cs.zip (cs.drop 1)).any fun (c, d) => c == '_' && d == '_'
  if cs.head? == some '_' || cs.getLast? == some '_' || doubled then none else some (cs.filter (· != '_'))

/-- A double in plain form with white space around it, or with underscores. -/
def numeral? (s : String) : Option Float :=
  (Numeral.plainFloat? (stripped s.toList)).or ((withoutUnderscores? s.toList).bind Numeral.plainFloat?)

/-- What follows the zeros at the beginning of a numeral, after the zero or underscore `last`: a greater digit and the
rest, a minus and the rest, or a point after one zero. -/
def afterZeros (last : Char) : List Char → Option (List Char)
  | [] => some [last]
  | c :: rest =>
    if c == '0' || c == '_' then afterZeros c rest
    else if ('1' ≤ c && c ≤ '9') || c == '-' then some (c :: rest)
    else if c == '.' then some (last :: c :: rest)
    else none

/-- A numeral that begins with a digit, without the zeros in front. -/
def withoutZeros : List Char → Option (List Char)
  | '0' :: rest => afterZeros '0' rest
  | c :: rest => if '1' ≤ c && c ≤ '9' then some (c :: rest) else none
  | [] => none

/-- A numeral without a fraction of zeros. -/
def withoutFraction (cs : List Char) : List Char :=
  let whole := cs.takeWhile (· != '.')
  if (cs.drop (whole.length + 1)).all (· == '0') then whole else cs

/-- The digits of an integer. White space may stand around it, zeros and a plus or minus in front, underscores
between its digits, and a fraction of zeros behind. -/
def integerDigits? (s : String) : Option (Bool × List Char) := do
  let (negative, body) := Numeral.sign (stripped s.toList)
  let digits := withoutFraction (← withoutZeros body)
  return (negative, (withoutUnderscores? digits).getD digits)

/-- Reads an integer numeral. -/
def integerNumeral (s : String) : Except Mismatch Int :=
  match integerDigits? s with
  | none => .error .notIntegerNumeral
  | some (negative, digits) =>
    let (negative', digits) := if negative then (false, digits) else Numeral.sign digits
    if digits.length > Number.digitLimit then .error .integerTooLong
    else if digits.isEmpty || !digits.all Text.isAsciiDigit then .error .notIntegerNumeral
    else .ok (if negative || negative' then -(Numeral.natOf digits : Int) else Numeral.natOf digits)

/-- A double from a number, a boolean or a numeral. -/
def readNumber : Value → Except Mismatch Number
  | .number n =>
    match n.toFloat with
    | .ok x => .ok (.float x)
    | .error _ => .error .notNumber
  | .bool b => .ok (.float (if b then 1.0 else 0.0))
  | .text s =>
    match numeral? s with
    | some x => .ok (.float x)
    | none => .error .notNumeral
  | _ => .error .notNumber

/-- Integers taken from doubles lie strictly between this limit and its negative. -/
def integralLimit : Int := 0x8000000000000000

/-- The integer that a double is. -/
def integral (x : Float) : Except Mismatch Int :=
  if !x.isFinite then .error .notFinite
  else
    match (Number.float x).truncate with
    | .ok n =>
      if !(Number.int n).eq (.float x) then .error .notIntegral
      else if -integralLimit < n && n < integralLimit then .ok n
      else .error .integerTooLong
    | .error _ => .error .notIntegral

/-- An integer from an integer, an integral double, a boolean or a numeral. -/
def readInteger : Value → Except Mismatch Number
  | .number (.int n) => .ok (.int n)
  | .number (.double q) => Number.int <$> integral q.value
  | .bool b => .ok (.int b.toNat)
  | .text s => Number.int <$> integerNumeral s
  | _ => .error .notInteger

def switchWords : List (String × Bool) :=
  [("0", false), ("off", false), ("f", false), ("false", false), ("n", false), ("no", false),
   ("1", true), ("on", true), ("t", true), ("true", true), ("y", true), ("yes", true)]

/-- The boolean that an integer stands for. -/
def switchOfInt (n : Int) : Except Mismatch Value :=
  if n = 0 then .ok (.bool false) else if n = 1 then .ok (.bool true) else .error .notSwitchWord

/-- A boolean from a boolean, zero or one, or a word. An integer beyond 64 bits is not asked which it is. -/
def readSwitch : Value → Except Mismatch Value
  | .bool b => .ok (.bool b)
  | .number (.int n) =>
    if -integralLimit ≤ n && n < integralLimit then switchOfInt n else .error .notSwitch
  | .number (.double q) =>
    match integral q.value with
    | .ok n => switchOfInt n
    | .error _ => .error .notSwitch
  | .text s =>
    match switchWords.lookup (String.ofList (s.toList.map Char.toLower)) with
    | some b => .ok (.bool b)
    | none => .error .notSwitchWord
  | _ => .error .notSwitch

/-- A single value at a place. -/
def single (path : List String) : Except Mismatch Value → Reading
  | .ok v => .ok v
  | .error reason => .error [⟨path, reason⟩]

/-- Readings one after the other; the misfits of all of them count. -/
def gather : List Reading → Except (List Misfit) (List Value)
  | [] => .ok []
  | r :: rest =>
    match r, gather rest with
    | .ok v, .ok vs => .ok (v :: vs)
    | .error e, .ok _ => .error e
    | .ok _, .error es => .error es
    | .error e, .error es => .error (e ++ es)

/-- A field under its name or its second spelling, with the spelling found. -/
def lookup (entries : Entries) (name : String) (other : Option String) : Option (String × Value) :=
  match Entries.get? entries name with
  | some v => some (name, v)
  | none => other.bind fun spelling => (Entries.get? entries spelling).map fun v => (spelling, v)

mutual

/-- Reads a value at a place. -/
def read : Shape → List String → Value → Reading
  | anything, _, v => .ok v
  | text, path, v => single path (match v with
    | .text s => .ok (.text s)
    | _ => .error .notText)
  | number bounds, path, v => single path (readNumber v >>= bounded bounds)
  | integer bounds, path, v => single path (readInteger v >>= bounded bounds)
  | switch, path, v => single path (readSwitch v)
  | optional inner, path, v =>
    match v with
    | .null => .ok .null
    | v => inner.read path v
  | list item, path, v =>
    match v with
    | .list items | .tuple items =>
      .list <$> gather (items.zipIdx.map fun (x, i) => item.read (path ++ [toString i]) x)
    | _ => .error [⟨path, .notList⟩]
  | table item, path, v =>
    match v with
    | .map entries => do
      let values ← gather (entries.map fun (k, x) => item.read (path ++ [k.text?.getD ""]) x)
      return .map ((entries.map (·.1)).zip values)
    | _ => .error [⟨path, .notMap⟩]
  | object keepsOthers fields, path, v =>
    match v with
    | .map entries => do
      let values ← gather (readFields fields path entries)
      let names := fields.map (·.1)
      let spellings := names ++ fields.filterMap (·.2.1)
      let others := if keepsOthers then entries.filter fun (k, _) => k.text?.all (!spellings.contains ·) else []
      return .map ((names.map Value.text).zip values ++ others)
    | _ => .error [⟨path, .notObject⟩]

/-- Reads each field, or takes its default. -/
def readFields : List (String × Option String × Shape × Option Value) → List String → Entries → List Reading
  | [], _, _ => []
  | (name, other, shape, default) :: rest, path, entries =>
    (match lookup entries name other with
      | some (spelling, v) => shape.read (path ++ [spelling]) v
      | none =>
        match default with
        | some v => .ok v
        | none => .error [⟨path ++ [name], .missing⟩])
    :: readFields rest path entries

end

end Shape
end CaptionAnimation.Service
