import StepUp.Text.CodePoint

/-!
# Blank texts and stripping

White space here is the set that stripping removes: the ASCII controls from tab to carriage
return and from file separator to unit separator, the spaces and line separators of Unicode, and
nothing of zero width.
-/

namespace StepUp

namespace CodePoint

def isSpace (c : CodePoint) : Bool :=
  (0x09 ≤ c.val && c.val ≤ 0x0D) || (0x1C ≤ c.val && c.val ≤ 0x20)
    || c.val == 0x85 || c.val == 0xA0 || c.val == 0x1680
    || (0x2000 ≤ c.val && c.val ≤ 0x200A) || c.val == 0x2028 || c.val == 0x2029
    || c.val == 0x202F || c.val == 0x205F || c.val == 0x3000

/-- Unicode's property White_Space: `isSpace` without the four information separators. -/
def isWhiteSpace (c : CodePoint) : Bool :=
  c.isSpace && !(0x1C ≤ c.val && c.val ≤ 0x1F)

end CodePoint

namespace Text

/-- A text is blank when it is empty or all white space. -/
def isBlank (t : Text) : Bool := t.all CodePoint.isSpace

/-- Without the leading and trailing code points of a class. -/
def trim (p : CodePoint → Bool) (t : Text) : Text :=
  (((t.dropWhile p).reverse).dropWhile p).reverse

def strip (t : Text) : Text := t.trim CodePoint.isSpace

end Text

end StepUp
