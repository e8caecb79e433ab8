import StepUp.Json.Value
import StepUp.Text.Quoted

/-!
# Values in messages

`Json.quoted` is the printed form of a value inside another value or between quotes in a message;
`Json.display` is the same but for a text, which stands as it is.
-/

namespace StepUp.Json

mutual

def quotedWith (e : Text.Escaping) : Json → Text
  | .null => "None"
  | .bool true => "True"
  | .bool false => "False"
  | .int n => Text.ofInt n
  | .float x => x.render
  | .str t => Text.quotedWith e t
  | .arr items => "[" ++ quotedItems e items ++ "]"
  | .obj entries => "\x7b" ++ quotedEntries e entries ++ "\x7d"

def quotedItems (e : Text.Escaping) : List Json → Text
  | [] => []
  | [v] => quotedWith e v
  | v :: rest => quotedWith e v ++ ", " ++ quotedItems e rest

def quotedEntries (e : Text.Escaping) : List (Text × Json) → Text
  | [] => []
  | [(k, v)] => Text.quotedWith e k ++ ": " ++ quotedWith e v
  | (k, v) :: rest =>
    Text.quotedWith e k ++ ": " ++ quotedWith e v ++ ", " ++ quotedEntries e rest

end

def quoted (v : Json) : Text := quotedWith .unprintable v

def display : Json → Text
  | .str t => t
  | v => quoted v

end StepUp.Json
