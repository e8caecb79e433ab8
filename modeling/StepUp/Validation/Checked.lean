import StepUp.Validation.Issue
import StepUp.Text.Blank
import StepUp.Json.Value

/-!
# Checked values

A check turns a JSON value into a typed value or into the list of everything that is wrong with
it. Checks of separate fields are put together by `Checked.ap`, which keeps the issues of both
sides in order; a condition on the finished value is put behind by `Except.bind` and so is only
asked when no field is at fault.
-/

namespace StepUp

abbrev Checked (α : Type) := Except (List Issue) α

namespace Checked

def fail {α : Type} (p : Problem) : Checked α := .error [⟨[], p⟩]

/-- Apply a checked function to a checked value; the issues of the function come first. -/
def ap {α β : Type} (f : Checked (α → β)) (x : Checked α) : Checked β :=
  match f, x with
  | .ok f, .ok a => .ok (f a)
  | .ok _, .error issues => .error issues
  | .error issues, .ok _ => .error issues
  | .error issues, .error more => .error (issues ++ more)

def within {α : Type} (part : LocationPart) (x : Checked α) : Checked α :=
  x.mapError fun issues => issues.map (Issue.within part)

/-- Check every element, under its index. -/
def eachFrom {α : Type} (check : Json → Checked α) : Nat → List Json → Checked (List α)
  | _, [] => .ok []
  | i, v :: rest =>
    ap (((check v).within (.index i)).map List.cons) (eachFrom check (i + 1) rest)

/-- Check the value of every entry, under its key. -/
def eachEntry {α : Type} (check : Json → Checked α) :
    List (Text × Json) → Checked (List (Text × α))
  | [] => .ok []
  | (k, v) :: rest =>
    ap (((check v).within (.field k)).map fun a => List.cons (k, a)) (eachEntry check rest)

end Checked

namespace Json

/-- The entries of an object, for a value that stands for the model of that name. -/
def checkModel {α : Type} (name : Text) (check : List (Text × Json) → Checked α) :
    Json → Checked α
  | .obj entries => check entries
  | _ => .fail (.notModel name)

def required {α : Type} (entries : List (Text × Json)) (name : Text) (check : Json → Checked α) :
    Checked α :=
  Checked.within (.field name) <| match entries.lookup name with
    | some v => check v
    | none => .fail .missing

def optional {α : Type} (entries : List (Text × Json)) (name : Text) (default : α)
    (check : Json → Checked α) : Checked α :=
  match entries.lookup name with
  | some v => (check v).within (.field name)
  | none => .ok default

def checkText : Json → Checked Text
  | .str t => .ok t
  | _ => .fail .notText

def checkNullableText : Json → Checked (Option Text)
  | .null => .ok none
  | v => (checkText v).map some

/-- A text whose characters matter: surrogates have none. -/
def checkUnicode (v : Json) : Checked Text := do
  let t ← checkText v
  if t.any CodePoint.isSurrogate then .fail .notUnicode else return t

def checkNonempty (v : Json) : Checked Text := do
  let t ← checkUnicode v
  if t.isEmpty then .fail (.tooShort 1) else return t

def checkChoice {α : Type} (choices : List (Text × α)) (v : Json) : Checked α :=
  match v with
  | .str t =>
    if t.any CodePoint.isSurrogate then .fail .notUnicode
    else match choices.lookup t with
      | some a => .ok a
      | none => .fail (.notOneOf (choices.map Prod.fst))
  | _ => .fail (.notOneOf (choices.map Prod.fst))

def checkObject (v : Json) : Checked (List (Text × Json)) :=
  match v with
  | .obj entries => .ok entries
  | _ => .fail .notObject

def checkObjectOf {α : Type} (check : Json → Checked α) (v : Json) :
    Checked (List (Text × α)) := do
  Checked.eachEntry check (← checkObject v)

def checkListOf {α : Type} (check : Json → Checked α) : Json → Checked (List α)
  | .arr items => Checked.eachFrom check 0 items
  | _ => .fail .notList

/-- Digits with single underscores between them, the underscores left out. -/
def digitGroups? (t : Text) : Option Text :=
  let groups := Text.splitOn (CodePoint.ofChar '_') t
  if groups.all fun g => !g.isEmpty && g.all CodePoint.isAsciiDigit then some groups.flatten
  else none

/-- The digits of a numeral with an integral value: a fraction may be all zeros. -/
def integralDigits? (t : Text) : Option Text :=
  match Text.splitAtFirst (CodePoint.ofChar '.') t with
  | none => digitGroups? t
  | some (whole, fraction) =>
    if !fraction.isEmpty && fraction.all (· == CodePoint.ofChar '0') then digitGroups? whole
    else none

/-- The longest numeral that is read. -/
def maxNumeralLength : Nat := 4300

/-- An integer written as a text, white space around it allowed. -/
def integerOfText (t : Text) : Checked Int :=
  let t := t.trim CodePoint.isWhiteSpace
  let (negative, body) := match t with
    | c :: rest => if c = '-' then (true, rest) else if c = '+' then (false, rest) else (false, t)
    | [] => (false, [])
  match integralDigits? body with
  | none => .fail .unreadableInteger
  | some digits =>
    if maxNumeralLength < digits.length then .fail .oversizedInteger
    else .ok (Text.toInt negative digits)

/-- A floating point number stands for an integer if it is one and less than `2 ^ 63`. -/
def integerOfFloat (x : Binary64) : Checked Int :=
  match x.truncate? with
  | none => .fail .notFinite
  | some n =>
    if !x.isIntegral then .fail .fractional
    else if -(Nat.pow 2 63 : Int) < n && n < Nat.pow 2 63 then .ok n
    else .fail .oversizedInteger

def checkInteger : Json → Checked Int
  | .int n => .ok n
  | .bool b => .ok (if b then 1 else 0)
  | .float x => integerOfFloat x
  | .str t => if t.any CodePoint.isSurrogate then .fail .notUnicode else integerOfText t
  | _ => .fail .notInteger

def checkNullableInteger : Json → Checked (Option Int)
  | .null => .ok none
  | v => (checkInteger v).map some

def checkAtLeast (minimum : Int) (v : Json) : Checked Int := do
  let n ← checkInteger v
  if n < minimum then .fail (.tooSmall minimum) else return n

end Json

end StepUp
