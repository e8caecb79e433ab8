import StepUp.Text.CodePoint

/-!
# Styled output

Labels are bold and cyan, success is green, failure is red, and what tells of nothing is dim. The
styles are control sequences around a text; where colours are not wanted all such sequences are
taken out of what is printed.
-/

namespace StepUp

inductive Style where
  | label
  | success
  | failure
  | faint

namespace Style

def escape : CodePoint := CodePoint.ofNat 0x1B

def code : Style → Text
  | .label => escape :: "[36m" ++ escape :: "[1m"
  | .success => escape :: "[32m"
  | .failure => escape :: "[31m"
  | .faint => escape :: "[2m"

def reset : Text := escape :: "[0m"

def apply (s : Style) (t : Text) : Text := s.code ++ t ++ reset

def isParameter (c : CodePoint) : Bool := c.isAsciiDigit || c.val == 0x3B || c.val == 0x3F

/-- A text without control sequences. `pending` is what may be the beginning of one. -/
def stripFrom (pending : Text) : Text → Text
  | [] => pending
  | c :: rest =>
    match pending with
    | [] => if c = escape then stripFrom [c] rest else c :: stripFrom [] rest
    | [e] =>
      if c = '[' then stripFrom [e, c] rest
      else if c = escape then e :: stripFrom [c] rest
      else e :: c :: stripFrom [] rest
    | pending =>
      if isParameter c then stripFrom (pending ++ [c]) rest
      else if c.isAsciiLetter then stripFrom [] rest
      else if c = escape then pending ++ stripFrom [c] rest
      else pending ++ c :: stripFrom [] rest

def strip (t : Text) : Text := stripFrom [] t

end Style

end StepUp
