import CaptionAnimation.Value.Equality

/-! # Caches of recent entries

A bounded map that drops the entry unused for longest. Entries stand from the least to the most recently used; an
entry is used when it is set or found. Lookups are counted as hits and misses. -/
namespace CaptionAnimation

structure Recent (κ υ : Type) where
  /-- The greatest number of entries. -/
  size : Nat
  entries : List (κ × υ) := []
  hits : Nat := 0
  misses : Nat := 0

namespace Recent

variable {κ υ : Type} [BEq κ]

/-- An empty cache; it must have room for one entry. -/
def ofSize (size : Int) : Except Fault (Recent κ υ) :=
  if size < 1 then .error .cacheTooSmall else .ok { size := size.toNat }

/-- The stored entry for a key. -/
def stored? (c : Recent κ υ) (key : κ) : Option (κ × υ) := c.entries.find? fun e => key == e.1

def contains (c : Recent κ υ) (key : κ) : Bool := (c.stored? key).isSome

/-- The entries without the one for a key. -/
def others (c : Recent κ υ) (key : κ) : List (κ × υ) := c.entries.filter fun e => !(key == e.1)

/-- Looks a key up; a found entry becomes the most recent. -/
def find (c : Recent κ υ) (key : κ) : Option υ × Recent κ υ :=
  match c.stored? key with
  | some e => (some e.2, { c with entries := c.others key ++ [e], hits := c.hits + 1 })
  | none => (none, { c with misses := c.misses + 1 })

/-- Stores a value as the most recent entry and drops the oldest entries beyond the size. A key that is there keeps
its spelling. -/
def set (c : Recent κ υ) (key : κ) (value : υ) : Recent κ υ :=
  let spelling := ((c.stored? key).map (·.1)).getD key
  let entries := c.others key ++ [(spelling, value)]
  { c with entries := entries.drop (entries.length - c.size) }

/-- Drops every entry and starts counting anew. -/
def clear (c : Recent κ υ) : Recent κ υ := { size := c.size }

/-- The keys from the least to the most recently used. -/
def keys (c : Recent κ υ) : List κ := c.entries.map (·.1)

def length (c : Recent κ υ) : Nat := c.entries.length

/-- How often keys were looked up. -/
def lookups (c : Recent κ υ) : Nat := c.hits + c.misses

end Recent

/-! ## Values as keys -/

instance : BEq Value := ⟨Value.same⟩

/-- A cache whose keys are values; not every value can be a key. -/
abbrev ValueCache := Recent Value Value

namespace ValueCache

/-- Runs an operation on a key that can be one. -/
def keyed (key : Value) (result : α) : Except Fault α :=
  match key.unkeyable with
  | some kind => .error (.unhashable kind)
  | none => .ok result

def find (c : ValueCache) (key : Value) : Except Fault (Option Value × ValueCache) := keyed key (Recent.find c key)

def set (c : ValueCache) (key value : Value) : Except Fault ValueCache := keyed key (Recent.set c key value)

def contains (c : ValueCache) (key : Value) : Except Fault Bool := keyed key (Recent.contains c key)

end ValueCache
end CaptionAnimation
