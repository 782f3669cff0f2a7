/-! # Searching in text

Whether one text occurs inside another. -/
namespace CaptionAnimation.Text

/-- Whether `part` occurs somewhere in `whole`. -/
def occursIn (part : List Char) : List Char → Bool
  | [] => part.isEmpty
  | c :: rest => part.isPrefixOf (c :: rest) || occursIn part rest

end CaptionAnimation.Text
