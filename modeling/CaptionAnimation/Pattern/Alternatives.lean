import CaptionAnimation.Pattern.Syntax

/-! # Alternatives

What all alternatives begin with is taken out in front of them. Alternatives that are then single characters or sets
become one set. -/
namespace CaptionAnimation.Pattern

/-- Whether two items are the same and hold no other items. -/
def Node.sameLeaf : Node → Node → Bool
  | .code c negated, .code d negated' => c == d && negated == negated'
  | .any, .any => true
  | .set negated items, .set negated' items' => negated == negated' && items == items'
  | .anchor a, .anchor b => a == b
  | .back i _, .back j _ => i == j
  | _, _ => false

/-- Takes out the items that all alternatives begin with; `first` is the first alternative. -/
def splitFront : (first : List Node) → (others : List (List Node)) → List Node × List Node × List (List Node)
  | [], others => ([], [], others)
  | n :: rest, others =>
    if others.all fun body => body.head?.any n.sameLeaf then
      let (front, first, others) := splitFront rest (others.map List.tail)
      (n :: front, first, others)
    else ([], n :: rest, others)

/-- The items of the set that an alternative is. -/
def setOf? : List Node → Option (List SetItem)
  | [.code c false] => some [.code c]
  | [.set false items] => some items
  | _ => none

/-- The items that stand for alternatives. -/
def alternatives : List (List Node) → List Node
  | [] => []
  | [only] => only
  | first :: others =>
    let (front, first, others) := splitFront first others
    match (first :: others).mapM setOf? with
    | some sets => front ++ [.set false sets.flatten.eraseDups]
    | none => front ++ [.choice (first :: others)]

end CaptionAnimation.Pattern
