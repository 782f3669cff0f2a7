import CaptionAnimation.Helper.Sequence
import CaptionAnimation.Helper.Text

/-! # The standard helpers

The helpers that every expression can call. -/
namespace CaptionAnimation

namespace Helper

def mathHelpers : List Helper :=
  [ ⟨"clamp", .math, 3, some 3, "Limit a value to [low, high]", clamp⟩,
    ⟨"min", .math, 1, none, "Smallest of the arguments (or of a single list argument)", minimum⟩,
    ⟨"max", .math, 1, none, "Largest of the arguments (or of a single list argument)", maximum⟩,
    ⟨"abs", .math, 1, some 1, "Absolute value", absolute⟩,
    ⟨"round", .math, 1, some 2, "Round to N digits (Python rounding, halves to even)", round⟩,
    ⟨"floor", .math, 1, some 1, "Round down", floor⟩,
    ⟨"ceil", .math, 1, some 1, "Round up", ceil⟩,
    ⟨"between", .math, 3, some 3, "True if low <= value <= high (inclusive)", between⟩ ]

def listHelpers : List Helper :=
  [ ⟨"count", .collection, 1, some 1, "Number of items", count⟩,
    ⟨"sum", .collection, 1, some 1, "Sum of numbers", sum⟩,
    ⟨"mean", .collection, 1, some 1, "Arithmetic mean of numbers (null for an empty list)", mean⟩,
    ⟨"pluck", .collection, 2, some 2, "Field of every item, skipping items without it", pluck⟩,
    ⟨"first", .collection, 1, some 1, "First item or null", first⟩,
    ⟨"last", .collection, 1, some 1, "Last item or null", last⟩ ]

def textHelpers : List Helper :=
  [ ⟨"lower", .text, 1, some 1, "Lowercase text", lower⟩,
    ⟨"upper", .text, 1, some 1, "Uppercase text", upper⟩,
    ⟨"trim", .text, 1, some 1, "Strip surrounding whitespace", trim⟩,
    ⟨"length", .text, 1, some 1, "Length of a string or list", length⟩,
    ⟨"contains", .text, 2, some 3, "Substring (or list item) test; optional 'i' for case-insensitive", contains⟩,
    ⟨"startsWith", .text, 2, some 2, "Prefix test", startsWith⟩,
    ⟨"endsWith", .text, 2, some 2, "Suffix test", endsWith⟩,
    ⟨"matches", .text, 2, some 3, "Regular expression search; optional flags 'i', 'm'", isMatch⟩ ]

end Helper

namespace Registry

/-- The helpers in the order in which they are listed. -/
def standard : Registry := ⟨Helper.mathHelpers ++ Helper.listHelpers ++ Helper.textHelpers⟩

end Registry
end CaptionAnimation
