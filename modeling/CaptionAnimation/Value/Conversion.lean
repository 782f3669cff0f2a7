import CaptionAnimation.Number.Reading
import CaptionAnimation.Value.Equality

/-! # Conversions

Reading doubles, maps and list items out of values, with the faults of values that do not fit. -/
namespace CaptionAnimation.Value

/-- A double from a number, a boolean or a numeral; a double stays what it is. -/
def toQuantity : Value → Except Fault Quantity
  | number n => n.toQuantity
  | bool b => .ok ⟨if b then 1.0 else 0.0, none⟩
  | text s => do return ⟨← Numeral.float s, none⟩
  | v => .error (.notFloat v.typeName)

def toFloat (v : Value) : Except Fault Float := do return (← v.toQuantity).value

/-- What a value yields when it is gone through: items, characters or keys. -/
def elements? : Value → Option (List Value)
  | list items | tuple items => some items
  | text s => some (s.toList.map fun c => text (String.singleton c))
  | map entries | readOnly entries => some (entries.map (·.1))
  | _ => none

/-- Adds pairs to a map; each element must yield a key and a value. -/
def putPairs (entries : Entries) (index : Nat) : List Value → Except Fault Entries
  | [] => .ok entries
  | item :: rest =>
    match item.elements? with
    | none => .error (.pairNotSequence index)
    | some [key, value] =>
      match key.unkeyable with
      | some kind => .error (.unhashable kind)
      | none => putPairs (Entries.put key value entries) (index + 1) rest
    | some other => .error (.pairLength index other.length)

/-- A map from a map or from a sequence of pairs. -/
def toEntries (v : Value) : Except Fault Entries :=
  match v with
  | map entries | readOnly entries => .ok entries
  | _ =>
    match v.elements? with
    | some items => putPairs [] 0 items
    | none => .error (.notIterable v.typeName)

/-- A map from a field that may be missing; everything false counts as missing. -/
def toEntriesOrEmpty : Option Value → Except Fault Entries
  | none => .ok []
  | some v => if v.truthy then v.toEntries else .ok []

/-- The entries of a value that must be a map to be asked for fields. -/
def fields (v : Value) : Except Fault Entries :=
  match v.entries? with
  | some entries => .ok entries
  | none => .error (.noField v.typeName "get")

end CaptionAnimation.Value
