import StepUp.Text.Decimal
import StepUp.Text.Quoted

/-!
# Issues

What is wrong with a document and where. A problem is the cause; its kind and its wording are
functions of it. A location leads from the document to the value by field names and indices.
-/

namespace StepUp

inductive Problem where
  | missing
  | notText
  /-- A text with surrogates, where the length or the choice depends on its characters. -/
  | notUnicode
  | tooShort (minimum : Nat)
  | notInteger
  | unreadableInteger
  | fractional
  | oversizedInteger
  | notFinite
  | tooSmall (minimum : Int)
  | notOneOf (choices : List Text)
  | notObject
  | notList
  | notModel (name : Text)
  | rejected (reason : Text)
deriving DecidableEq

namespace Problem

def kind : Problem → Text
  | .missing => "missing"
  | .notText => "string_type"
  | .notUnicode => "string_unicode"
  | .tooShort _ => "string_too_short"
  | .notInteger => "int_type"
  | .unreadableInteger => "int_parsing"
  | .fractional => "int_from_float"
  | .oversizedInteger => "int_parsing_size"
  | .notFinite => "finite_number"
  | .tooSmall _ => "greater_than_equal"
  | .notOneOf _ => "literal_error"
  | .notObject => "dict_type"
  | .notList => "list_type"
  | .notModel _ => "model_type"
  | .rejected _ => "value_error"

/-- Quoted choices with commas between them and `or` before the last. -/
def listChoices : List Text → Text
  | [] => []
  | [c] => Text.quoted c
  | [c, d] => Text.quoted c ++ " or " ++ Text.quoted d
  | c :: rest => Text.quoted c ++ ", " ++ listChoices rest

/-- A surrogate becomes three replacement characters, one for each octet of its general form. -/
def withoutSurrogates (t : Text) : Text :=
  t.flatMap fun c => if c.isSurrogate then List.replicate 3 (CodePoint.ofNat 0xFFFD) else [c]

def message : Problem → Text
  | .missing => "Field required"
  | .notText => "Input should be a valid string"
  | .notUnicode =>
    "Input should be a valid string, unable to parse raw data as a unicode string"
  | .tooShort n =>
    "String should have at least " ++ Text.ofNat n ++ " character" ++ (if n = 1 then [] else "s" : Text)
  | .notInteger => "Input should be a valid integer"
  | .unreadableInteger => "Input should be a valid integer, unable to parse string as an integer"
  | .fractional => "Input should be a valid integer, got a number with a fractional part"
  | .oversizedInteger => "Unable to parse input string as an integer, exceeded maximum size"
  | .notFinite => "Input should be a finite number"
  | .tooSmall n => "Input should be greater than or equal to " ++ Text.ofInt n
  | .notOneOf choices => "Input should be " ++ listChoices choices
  | .notObject => "Input should be a valid dictionary"
  | .notList => "Input should be a valid list"
  | .notModel name => "Input should be a valid dictionary or instance of " ++ name
  | .rejected reason => "Value error, " ++ withoutSurrogates reason

end Problem

inductive LocationPart where
  | field (name : Text)
  | index (i : Nat)
deriving DecidableEq

namespace LocationPart

def text : LocationPart → Text
  | .field name => name
  | .index i => Text.ofNat i

end LocationPart

structure Issue where
  location : List LocationPart
  problem : Problem
deriving DecidableEq

namespace Issue

/-- The parts of the location with points between them; empty for the document itself. -/
def path (i : Issue) : Text := Text.join "." (i.location.map LocationPart.text)

def within (part : LocationPart) (i : Issue) : Issue := { i with location := part :: i.location }

end Issue

end StepUp
