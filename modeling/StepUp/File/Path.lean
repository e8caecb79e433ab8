import StepUp.Text.CodePoint

/-!
# File paths

A path is a root and parts. Empty parts and single points are dropped when a path is read; `..`
stays, since what it leads to depends on the files. Exactly two slashes in front are a root of
their own.
-/

namespace StepUp

structure Path where
  root : Text
  parts : List Text
deriving DecidableEq

namespace Path

def rootOf (t : Text) : Text :=
  match (t.takeWhile (· == CodePoint.ofChar '/')).length with
  | 0 => []
  | 2 => "//"
  | _ => "/"

def parse (t : Text) : Path :=
  ⟨rootOf t, (Text.splitOn (CodePoint.ofChar '/') t).filter fun p => !p.isEmpty && p != "."⟩

def text (p : Path) : Text :=
  if p.root.isEmpty && p.parts.isEmpty then "."
  else p.root ++ Text.join "/" p.parts

def append (p q : Path) : Path :=
  if q.root.isEmpty then { p with parts := p.parts ++ q.parts } else q

def parent (p : Path) : Path := { p with parts := p.parts.dropLast }

/-- The parts without `..`, each of which takes back the part before it. -/
def normalParts : List Text → List Text → List Text
  | before, [] => before
  | before, part :: rest =>
    if part != ".." then normalParts (before ++ [part]) rest
    else match before.getLast? with
      | some last =>
        if last != ".." then normalParts before.dropLast rest else normalParts (before ++ [part]) rest
      | none => normalParts [part] rest

/-- The same path where no part leads through a link. -/
def normal (p : Path) : Path :=
  let parts := normalParts [] p.parts
  { p with parts := if p.root.isEmpty then parts else parts.dropWhile (· == "..") }

end Path

end StepUp
