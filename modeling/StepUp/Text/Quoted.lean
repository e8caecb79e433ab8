import StepUp.Text.Printable
import StepUp.Text.Decimal

/-!
# Quoted texts

A text as it stands in a message or in the printed form of a value: between apostrophes, or
between quotation marks when it holds an apostrophe and no quotation mark. Backslash, the quote
in use and the three usual controls are escaped by a letter, other unprintable code points by
number. `Escaping.ascii` escapes everything outside ASCII as well.
-/

namespace StepUp.Text

inductive Escaping where
  | unprintable
  | ascii
deriving DecidableEq

namespace Escaping

def keeps : Escaping → CodePoint → Bool
  | .unprintable, c => c.isPrintable
  | .ascii, c => 0x20 ≤ c.val && c.val < 0x7F

end Escaping

/-- Two, four or eight hexadecimal digits, whichever is enough. -/
def escapeByNumber (c : CodePoint) : Text :=
  if c.val < 0x100 then "\\x" ++ hex 2 c.val
  else if c.val < 0x10000 then "\\u" ++ hex 4 c.val
  else "\\U" ++ hex 8 c.val

def quoteCodePoint (e : Escaping) (mark : CodePoint) (c : CodePoint) : Text :=
  if c = '\\' || c = mark then [CodePoint.ofChar '\\', c]
  else if c = '\n' then "\\n"
  else if c = '\r' then "\\r"
  else if c = '\t' then "\\t"
  else if e.keeps c then [c]
  else escapeByNumber c

def quotationMark (t : Text) : CodePoint :=
  if t.contains (CodePoint.ofChar '\'') && !t.contains (CodePoint.ofChar '"') then '"' else '\''

def quotedWith (e : Escaping) (t : Text) : Text :=
  let mark := quotationMark t
  [mark] ++ t.flatMap (quoteCodePoint e mark) ++ [mark]

def quoted (t : Text) : Text := quotedWith .unprintable t

end StepUp.Text
