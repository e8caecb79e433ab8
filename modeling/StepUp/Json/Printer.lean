import StepUp.Json.Value

/-!
# Writing JSON

Only the characters from space to tilde are written; everything else is escaped, code points
beyond the first plane as two surrogates. `Json.render` puts a value on one line,
`Json.renderIndented` puts each entry on a line of its own.
-/

namespace StepUp.Json

def escapeUnit (n : Nat) : Text := "\\u" ++ Text.hex 4 n

def escapeCodePoint (c : CodePoint) : Text :=
  if c = '"' then "\\\""
  else if c = '\\' then "\\\\"
  else if c = '\n' then "\\n"
  else if c = '\r' then "\\r"
  else if c = '\t' then "\\t"
  else if c.val = 0x08 then "\\b"
  else if c.val = 0x0C then "\\f"
  else if 0x20 ≤ c.val && c.val < 0x7F then [c]
  else if c.val < 0x10000 then escapeUnit c.val
  else
    escapeUnit (0xD800 + (c.val - 0x10000) / 0x400)
      ++ escapeUnit (0xDC00 + (c.val - 0x10000) % 0x400)

def renderText (t : Text) : Text := "\"" ++ t.flatMap escapeCodePoint ++ "\""

def renderFloat : Binary64 → Text
  | .nan => "NaN"
  | .infinity negative => if negative then "-Infinity" else "Infinity"
  | x => x.render

mutual

def render : Json → Text
  | .null => "null"
  | .bool true => "true"
  | .bool false => "false"
  | .int n => Text.ofInt n
  | .float x => renderFloat x
  | .str t => renderText t
  | .arr items => "[" ++ renderItems items ++ "]"
  | .obj entries => "\x7b" ++ renderEntries entries ++ "\x7d"

def renderItems : List Json → Text
  | [] => []
  | [v] => render v
  | v :: rest => render v ++ ", " ++ renderItems rest

def renderEntries : List (Text × Json) → Text
  | [] => []
  | [(k, v)] => renderText k ++ ": " ++ render v
  | (k, v) :: rest => renderText k ++ ": " ++ render v ++ ", " ++ renderEntries rest

end

/-- A line break and two spaces for each level. -/
def newline (level : Nat) : Text :=
  CodePoint.ofChar '\n' :: List.replicate (2 * level) (CodePoint.ofChar ' ')

mutual

def renderAt (level : Nat) : Json → Text
  | .arr (v :: rest) => "[" ++ renderItemsAt (level + 1) (v :: rest) ++ newline level ++ "]"
  | .obj (p :: rest) =>
    "\x7b" ++ renderEntriesAt (level + 1) (p :: rest) ++ newline level ++ "\x7d"
  | v => render v

def renderItemsAt (level : Nat) : List Json → Text
  | [] => []
  | [v] => newline level ++ renderAt level v
  | v :: rest => newline level ++ renderAt level v ++ "," ++ renderItemsAt level rest

def renderEntriesAt (level : Nat) : List (Text × Json) → Text
  | [] => []
  | [(k, v)] => newline level ++ renderText k ++ ": " ++ renderAt level v
  | (k, v) :: rest =>
    newline level ++ renderText k ++ ": " ++ renderAt level v ++ ","
      ++ renderEntriesAt level rest

end

def renderIndented (v : Json) : Text := renderAt 0 v

end StepUp.Json
