import StepUp.Text.CodePoint

/-!
# Wrapped text

A paragraph is broken into lines between words. Blanks inside a line stay as they are, those at a
line break are dropped.
-/

namespace StepUp.Text

def blanks (n : Nat) : Text := List.replicate n (CodePoint.ofChar ' ')

/-- The words of a text, each with the number of blanks before it. -/
def spacedWords : Text → List (Nat × Text)
  | [] => []
  | c :: rest =>
    match spacedWords rest with
    | (0, word) :: more => if c = ' ' then (1, word) :: more else (0, c :: word) :: more
    | (n, word) :: more => if c = ' ' then (n + 1, word) :: more else (0, [c]) :: (n, word) :: more
    | [] => if c = ' ' then [] else [(0, [c])]

/-- Lines of at most `width` characters, the first of which has begun. A longer word has a line of
its own. -/
def fillLines (width : Nat) (line : Text) : List (Nat × Text) → List Text
  | [] => if line.isEmpty then [] else [line]
  | (n, word) :: rest =>
    if line.isEmpty then fillLines width word rest
    else if line.length + n + word.length ≤ width then
      fillLines width (line ++ blanks n ++ word) rest
    else line :: fillLines width word rest

def wrap (width : Nat) (t : Text) : List Text := fillLines width [] (spacedWords t)

end StepUp.Text
