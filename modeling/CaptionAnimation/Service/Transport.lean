import CaptionAnimation.Value.Display
import CaptionAnimation.Value.Equality

/-! # Bodies on the way

A body is sent as JSON. Keys arrive as text, and of two keys with the same text the later one counts; values that
JSON does not know cannot be sent. -/
namespace CaptionAnimation.Service.Transport

/-- A number that can be sent: not too long, and neither infinite nor undefined. -/
def number : Number → Except Fault Number
  | .int n => do
    let _ ← Number.intText n
    return .int n
  | .double q => if q.value.isFinite then .ok (.double q) else .error .notFinite

/-- A key as text. -/
def key : Value → Except Fault String
  | .text s => .ok s
  | .null => .ok "null"
  | .bool b => .ok (if b then "true" else "false")
  | .number n => do
    match ← number n with
    | .int n => Number.intText n
    | .double q => return Notation.float q.value
  | k => .error (.mapKey k.typeName)

mutual

/-- A value as it arrives. -/
def arrived : Value → Except Fault Value
  | .null => .ok .null
  | .bool b => .ok (.bool b)
  | .number n => .number <$> number n
  | .text s => .ok (.text s)
  | .list items | .tuple items => .list <$> arrivedAll items
  | .map entries => .map <$> arrivedEntries entries []
  | v => .error (.notSendable v.typeName)

def arrivedAll : List Value → Except Fault (List Value)
  | [] => .ok []
  | x :: xs => do return (← arrived x) :: (← arrivedAll xs)

def arrivedEntries : Entries → (before : Entries) → Except Fault Entries
  | [], before => .ok before
  | (k, v) :: rest, before => do
    let name ← key k
    arrivedEntries rest (Entries.put (.text name) (← arrived v) before)

end

end CaptionAnimation.Service.Transport
