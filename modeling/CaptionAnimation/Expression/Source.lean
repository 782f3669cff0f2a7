import CaptionAnimation.Chain
import CaptionAnimation.Expression.Syntax
import CaptionAnimation.Value.Display

/-! # The source text of a tree

A tree written out in full: every binary and logical operation and every conditional in parentheses. Chains of
operators and accesses are walked down their left side with the pending links in a list, so a long chain needs no
deep recursion. -/
namespace CaptionAnimation.Expression

/-- A text between single quotes, with backslashes and quotes escaped. -/
def quotedSource (s : String) : String :=
  String.ofList ('\'' :: s.toList.flatMap (fun c => if c == '\\' || c == '\'' then ['\\', c] else [c]) ++ ['\''])

/-- The text of a literal; a value that no source spells is shown as in messages. -/
def literalSource : Value → Except Fault String
  | .null => .ok "null"
  | .bool b => .ok (if b then "true" else "false")
  | .text s => .ok (quotedSource s)
  | v => v.display

/-- Completes the text of a part to the text of the whole. -/
abbrev SourceLink := String → Except Fault String

namespace Expr

mutual

/-- The text of `e` completed by the pending links. -/
def sourceThen : Expr → List SourceLink → Except Fault String
  | member _ obj field guarded, links =>
    sourceThen obj ((fun text => .ok (text ++ (if guarded then "?." else ".") ++ field)) :: links)
  | index _ obj key _, links =>
    sourceThen obj ((fun text => do return text ++ "[" ++ (← sourceThen key []) ++ "]") :: links)
  | binary _ op left right, links =>
    sourceThen left
      ((fun text => do return "(" ++ text ++ " " ++ op.spelling ++ " " ++ (← sourceThen right []) ++ ")") :: links)
  | logical _ op left right, links =>
    sourceThen left
      ((fun text => do return "(" ++ text ++ " " ++ op.spelling ++ " " ++ (← sourceThen right []) ++ ")") :: links)
  | literal _ value, links => applyAll (literalSource value) links
  | name _ root, links => applyAll (.ok root) links
  | array _ items, links =>
    applyAll (do return "[" ++ ", ".intercalate (← sourceAll items) ++ "]") links
  | call _ helper args, links =>
    applyAll (do return helper ++ "(" ++ ", ".intercalate (← sourceAll args) ++ ")") links
  | prefixed _ op operand, links =>
    applyAll (do return op.spelling ++ (← sourceThen operand [])) links
  | conditional _ test yes no, links =>
    applyAll
      (do return "(" ++ (← sourceThen test []) ++ " ? " ++ (← sourceThen yes []) ++ " : " ++ (← sourceThen no [])
            ++ ")")
      links
  | unknown _, links => applyAll (.ok "<?>") links

def sourceAll : List Expr → Except Fault (List String)
  | [] => .ok []
  | e :: es => do return (← sourceThen e []) :: (← sourceAll es)

end

/-- The canonical source of a tree. -/
def source (e : Expr) : Except Fault String := sourceThen e []

end Expr
end CaptionAnimation.Expression
