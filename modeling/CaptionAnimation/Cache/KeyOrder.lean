import CaptionAnimation.Number.Power
import CaptionAnimation.Value.Equality

/-! # Order of keys

Entries in the order of their keys. Text is ordered by code point and numbers by size; keys of different kinds cannot
be compared, and the first two such keys that meet are the fault. Which two meet first follows from the way of
sorting: runs that are in order already are found, short ones are lengthened by insertion, and neighbouring runs are
merged, those first that lie deepest in a halving of the whole. -/
namespace CaptionAnimation.KeyOrder

/-- The order of keys that can be compared. -/
def below : Value → Value → Option Bool
  | .text s, .text t => some (decide (s < t))
  | a, b =>
    match numeric? a, numeric? b with
    | some m, some n => some (m.lt n)
    | _, _ => none
where
  numeric? : Value → Option Number
    | .bool b => some (.int b.toNat)
    | .number n => some n
    | _ => none

/-- Whether the key `a` comes before the key `b`. -/
def before (a b : Value) : Except Fault Bool :=
  match below a b with
  | some yes => .ok yes
  | none => .error (.unordered "<" a.typeName b.typeName)

/-- Splits off the longest run of further entries in which each key comes before the previous one, or in which none
does. -/
def splitRun (falling : Bool) (previous : Value) :
    List (Value × α) → Except Fault (List (Value × α) × List (Value × α))
  | [] => .ok ([], [])
  | e :: rest => do
    if (← before e.1 previous) == falling then
      let (run, rest) ← splitRun falling e.1 rest
      return (e :: run, rest)
    else return ([], e :: rest)

/-- The place of a key among sorted entries, found by halving the interval from `low` to `high`; after all that are
not above it. -/
def placeOf (entries : List (Value × α)) (key : Value) (low high : Nat) : Except Fault Nat :=
  if low < high then
    let middle := low + (high - low) / 2
    match entries[middle]? with
    | none => .ok low
    | some e =>
      match before key e.1 with
      | .error fault => .error fault
      | .ok true => placeOf entries key low middle
      | .ok false => placeOf entries key (middle + 1) high
  else .ok low
termination_by high - low

/-- Puts an entry into sorted ones. -/
def insert (entries : List (Value × α)) (e : Value × α) : Except Fault (List (Value × α)) := do
  let place ← placeOf entries e.1 0 entries.length
  return entries.take place ++ e :: entries.drop place

/-- The length to which runs among `n` entries are lengthened: `n` halved until it is below 64, rounded up if an
entry is `left` over. -/
def leastRun (n : Nat) (left : Bool := false) : Nat :=
  if n < 64 then n + left.toNat else leastRun (n / 2) (left || n % 2 == 1)

/-- The leading run, turned round if it falls and lengthened to `least`, and the other entries. -/
def takeRun (least : Nat) : List (Value × α) → Except Fault (List (Value × α) × List (Value × α))
  | e :: next :: rest => do
    let falling ← before next.1 e.1
    let (run, rest) ← splitRun falling next.1 rest
    let run := if falling then (e :: next :: run).reverse else e :: next :: run
    let missing := least - run.length
    return (← (rest.take missing).foldlM insert run, rest.drop missing)
  | entries => .ok (entries, [])

/-- Merges two sorted lists; of keys that are equal those of the first come first. -/
def merge : List (Value × α) → List (Value × α) → Except Fault (List (Value × α))
  | [], ys => .ok ys
  | xs, [] => .ok xs
  | x :: xs, y :: ys => do
    if ← before y.1 x.1 then return y :: (← merge (x :: xs) ys)
    else return x :: (← merge xs (y :: ys))

/-- A sorted stretch of the entries, with the place of its first one and the depth of its border to the next. -/
structure Stretch (α : Type) where
  start : Nat
  entries : List (Value × α)
  depth : Nat := 0

/-- Twice the middle of a stretch. -/
def Stretch.middle (s : Stretch α) : Nat := 2 * s.start + s.entries.length

/-- The depth of the border of two stretches among `n` entries: the first binary place at which their middles, as
fractions of the whole, differ. -/
def depth (n : Nat) (s t : Stretch α) : Nat :=
  ((List.range (n.log2 + 2)).find? fun k => s.middle * twoTo k / n != t.middle * twoTo k / n).getD 0 + 1

/-- Merges two neighbours. -/
def Stretch.join (s t : Stretch α) : Except Fault (Stretch α) := do
  return { s with entries := ← merge s.entries t.entries }

/-- Merges the last of the stretches, listed from the right to the left, with those before it whose borders are
deeper than `depth`. -/
def settle (depth : Nat) (last : Stretch α) : List (Stretch α) → Except Fault (List (Stretch α))
  | [] => .ok [{ last with depth }]
  | s :: before =>
    if depth < s.depth then do settle depth (← s.join last) before
    else .ok ({ last with depth } :: s :: before)

/-- Puts a further run to the right of the stretches among `n` entries. -/
def push (n : Nat) (stretches : List (Stretch α)) (run : List (Value × α)) : Except Fault (List (Stretch α)) := do
  match stretches with
  | [] => return [⟨0, run, 0⟩]
  | last :: before =>
    let next : Stretch α := ⟨last.start + last.entries.length, run, 0⟩
    return next :: (← settle (depth n last next) last before)

/-- Takes runs from the left until no entries are left. There are at most as many runs as entries, which bounds the
steps. -/
def stretches (n : Nat) : (steps : Nat) → List (Stretch α) → List (Value × α) → Except Fault (List (Stretch α))
  | 0, done, _ | _, done, [] => .ok done
  | steps + 1, done, entries => do
    let (run, rest) ← takeRun (leastRun n) entries
    stretches n steps (← push n done run) rest

/-- Merges all stretches, the last with the one before it unless that one has a shorter neighbour on its left. -/
def joinAll : List (Stretch α) → Except Fault (List (Value × α))
  | [] => .ok []
  | [s] => .ok s.entries
  | [t, s] => do return (← s.join t).entries
  | t :: s :: r :: before => do
    if r.entries.length < t.entries.length then joinAll (t :: (← r.join s) :: before)
    else joinAll ((← s.join t) :: r :: before)
termination_by stretches => stretches.length

/-- Entries with keys of any kind in the order of their keys. -/
def sortedByRuns (entries : List (Value × α)) : Except Fault (List (Value × α)) := do
  joinAll (← stretches entries.length entries.length [] entries)

/-- Entries in the order of their keys. Text can always be compared. -/
def sorted (entries : List (Value × α)) : Except Fault (List (Value × α)) :=
  if entries.all fun e => e.1 matches .text _ then
    .ok (entries.mergeSort fun a b => !(below b.1 a.1).getD false)
  else sortedByRuns entries

end CaptionAnimation.KeyOrder
