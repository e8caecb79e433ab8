import StepUp.Number.Binary64

/-!
# JSON values

Objects keep their entries in order. Integers are unbounded and apart from floating point numbers,
and the two infinities and the value that is no number are values too.
-/

namespace StepUp

inductive Json where
  | null
  | bool (value : Bool)
  | int (value : Int)
  | float (value : Binary64)
  | str (text : Text)
  | arr (items : List Json)
  | obj (entries : List (Text × Json))

namespace Json

instance : Inhabited Json := ⟨.null⟩

instance : Coe Text Json := ⟨.str⟩

/-- The value under a key of an object; nothing is under a key of any other value. -/
def get? (v : Json) (key : Text) : Option Json :=
  match v with
  | .obj entries => entries.lookup key
  | _ => none

def text? : Json → Option Text
  | .str t => some t
  | _ => none

def isNull : Json → Bool
  | .null => true
  | _ => false

/-- Null, false, zero and empty containers do not count as given. -/
def isTruthy : Json → Bool
  | .null => false
  | .bool b => b
  | .int n => n != 0
  | .float x => !x.isZero
  | .str t => !t.isEmpty
  | .arr items => !items.isEmpty
  | .obj entries => !entries.isEmpty

/-- A later entry under a key replaces the value and keeps the place of the first. -/
def putEntry (entries : List (Text × Json)) (key : Text) (value : Json) :
    List (Text × Json) :=
  match entries with
  | [] => [(key, value)]
  | (k, v) :: rest => if k = key then (k, value) :: rest else (k, v) :: putEntry rest key value

/-- The entries of an object whose keys may repeat. -/
def ofEntries (pairs : List (Text × Json)) : Json :=
  .obj (pairs.foldl (fun entries p => putEntry entries p.1 p.2) [])

def ofOption (x : Option Text) : Json :=
  match x with
  | some t => .str t
  | none => .null

end Json

end StepUp
