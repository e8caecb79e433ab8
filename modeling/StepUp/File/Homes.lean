import StepUp.File.Path

/-!
# Home directories

A tilde at the beginning of a path means a home directory: the own one, or with a name behind it
that of a user.
-/

namespace StepUp

/-- The user named after a tilde has no home directory, or the name is none. -/
inductive HomeFault where
  | unknown
  | nullInName
deriving DecidableEq

def HomeFault.message : HomeFault → Text
  | .unknown => "Could not determine home directory."
  | .nullInName => "embedded null byte"

structure Homes where
  own : Text
  ofUser : Text → Option Text

namespace Homes

/-- A home directory without slashes behind it; without anything it is the root. -/
def trimmed (home : Text) : Text :=
  let home := (home.reverse.dropWhile (· == CodePoint.ofChar '/')).reverse
  if home.isEmpty then "/" else home

/-- The user and the home directory of a line of an account file: fields with colons between them,
the first of seven the name, the sixth the directory. -/
def account? (line : Text) : Option (Text × Text) :=
  match Text.splitOn (CodePoint.ofChar ':') line with
  | name :: _ :: _ :: _ :: _ :: home :: _ => some (name, home)
  | _ => none

/-- The own home directory and those of the accounts of a machine. -/
def ofAccounts (own : Text) (accounts : List Text) : Homes :=
  { own := trimmed own
    ofUser := fun user => ((accounts.filterMap account?).lookup user).map trimmed }

end Homes

/-- Replace a tilde in the first part by the home directory it means. -/
def Path.expandUser (homes : Homes) (p : Path) : Except HomeFault Path :=
  match p.root, p.parts with
  | [], (c :: user) :: rest =>
    if c = '~' then
      if user.any fun c => c.val == 0 then .error .nullInName
      else match if user.isEmpty then some homes.own else homes.ofUser user with
        | some home => .ok ((Path.parse home).append ⟨[], rest⟩)
        | none => .error .unknown
    else .ok p
  | _, _ => .ok p

end StepUp
