import CaptionAnimation.Cache.KeyOrder
import CaptionAnimation.Text.Digest
import CaptionAnimation.Value.Display

/-! # Fingerprints

What identifies a transcript to the cache of variables: its id, or else a digest of its metadata. The digest is taken
of the metadata written as JSON with sorted keys, without blanks and in ASCII, so that the order of keys does not
matter. -/
namespace CaptionAnimation

namespace Canonical

/-- A code unit as `\u` and four hexadecimal digits. -/
def escapeUnit (n : Nat) : List Char := '\\' :: 'u' :: Text.hexDigits 4 n

/-- One character of a JSON text; beyond ASCII as one or two code units. -/
def escape (c : Char) : List Char :=
  match c with
  | '"' => ['\\', '"']
  | '\\' => ['\\', '\\']
  | '\n' => ['\\', 'n']
  | '\r' => ['\\', 'r']
  | '\t' => ['\\', 't']
  | '\x0c' => ['\\', 'f']
  | '\x08' => ['\\', 'b']
  | c =>
    let n := c.toNat
    if 0x20 ≤ n && n ≤ 0x7e then [c]
    else if n < 0x10000 then escapeUnit n
    else
      let m := n - 0x10000
      escapeUnit (0xd800 + m / 0x400) ++ escapeUnit (0xdc00 + m % 0x400)

def quoted (s : String) : String := String.ofList ('"' :: s.toList.flatMap escape ++ ['"'])

def float (x : Float) : String :=
  if x.isNaN then "NaN"
  else if x.isInf then (if x < 0 then "-Infinity" else "Infinity")
  else Notation.float x

def number : Number → Except Fault String
  | .int n => Number.intText n
  | .double q => .ok (float q.value)

/-- A key as text. -/
def keyText : Value → Except Fault String
  | .text s => .ok s
  | .null => .ok "null"
  | .bool b => .ok (if b then "true" else "false")
  | .number n => number n
  | k => .error (.mapKey k.typeName)

/-- Sorts rendered entries and joins them in braces. -/
def object (entries : List (Value × Except Fault String)) : Except Fault String := do
  let members ← (← KeyOrder.sorted entries).mapM fun (key, value) => do
    return quoted (← keyText key) ++ ":" ++ (← value)
  return "\x7b" ++ ",".intercalate members ++ "\x7d"

mutual

/-- A value as canonical JSON. Values that JSON does not know are written as the text of their display. -/
def text : Value → Except Fault String
  | .null => .ok "null"
  | .bool b => .ok (if b then "true" else "false")
  | .number n => number n
  | .text s => .ok (quoted s)
  | .list items | .tuple items => do return "[" ++ ",".intercalate (← texts items) ++ "]"
  | .map entries => object (members entries)
  | .readOnly entries => do return quoted (← (Value.readOnly entries).plain)
  | .word w => do return quoted (← w.display)
  | .segment s => do return quoted (← s.display)
  | .transcript t => do return quoted (← t.display)
  | .object type fields => do return quoted (← (Value.object type fields).display)

def texts : List Value → Except Fault (List String)
  | [] => .ok []
  | x :: xs => do return (← text x) :: (← texts xs)

def members : List (Value × Value) → List (Value × Except Fault String)
  | [] => []
  | (k, v) :: es => (k, text v) :: members es

end

end Canonical

/-- The identity of a transcript for the cache of variables. -/
def Transcript.fingerprint (t : Transcript) : Except Fault String :=
  match t.id with
  | some id => if id.isEmpty then digest t.metadata else .ok ("id:" ++ id)
  | none => digest t.metadata
where
  digest (metadata : Entries) : Except Fault String := do
    let text ← Canonical.text (.map metadata)
    return String.ofList ((Text.Digest.sha256 text.toUTF8.toList).take 16)

end CaptionAnimation
