import StepUp.Json.Display
import StepUp.Role.Rule

/-!
# Selection among role grants

A policy says which of several grants counts: the first one, or the first one of the highest
rank.
-/

namespace StepUp

inductive RoleSelection where
  | firstMatch
  | highestRank
deriving DecidableEq

namespace RoleSelection

def text : RoleSelection → Text
  | .firstMatch => "first_match"
  | .highestRank => "highest_rank"

def all : List RoleSelection := [.firstMatch, .highestRank]

def ofJson? (v : Json) : Option RoleSelection :=
  match v with
  | .str t => all.find? (·.text == t)
  | _ => none

/-- The complaint about a value that is no policy. -/
def invalidMessage (v : Json) : Text := v.quoted ++ " is not a valid RoleSelection"

/-- The grant of highest rank, of several the first. -/
def strongest (first : RoleGrant) (rest : List RoleGrant) : RoleGrant :=
  rest.foldl (fun best g => if best.method.rank < g.method.rank then g else best) first

/-- There is nothing to select from an empty list. -/
def select? (s : RoleSelection) : List RoleGrant → Option RoleGrant
  | [] => none
  | first :: rest =>
    match s with
    | .firstMatch => some first
    | .highestRank => some (strongest first rest)

end RoleSelection

end StepUp
