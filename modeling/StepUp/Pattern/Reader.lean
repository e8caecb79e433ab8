import StepUp.Pattern.Syntax
import StepUp.Text.Identifier

/-!
# Reading a pattern token by token

A token is a code point, or a backslash with the code point behind it. The reader keeps the text
that is left, its position, the groups met so far and the options set for the whole pattern. A
backslash at the very end is refused as soon as it comes next.
-/

namespace StepUp.Pattern

structure Options where
  ignoreCase : Bool := false
  ascii : Bool := false
  multiline : Bool := false
  dotAll : Bool := false
  verbose : Bool := false

namespace Options

def folding (o : Options) : Folding :=
  if o.ignoreCase then if o.ascii then .ascii else .unicode else .none

end Options

structure Progress where
  rest : Text
  position : Nat
  /-- The width of each group, from the first on; an open group has none yet. -/
  groups : List (Option Width) := []
  names : List (Text × Nat) := []
  /-- The number of the first group that the enclosing look-behind may not refer to. -/
  behindFrom : Option Nat := none
  /-- Groups that conditions refer to, with the positions of the references. -/
  pending : List (Nat × Nat) := []
  options : Options := {}
  unicode : Bool := false
  template : Bool := false

abbrev Reader := StateT Progress (Except Refusal)

namespace Reader

def failAt {α : Type} (c : Complaint) (position : Nat) : Reader α :=
  throw (.malformed c (some position))

/-- Complain about what stands `offset` code points before the next token. -/
def fail {α : Type} (c : Complaint) (offset : Nat := 0) : Reader α := do
  failAt c ((← get).position - offset)

def refuseLoneBackslash : Reader Unit := do
  let p ← get
  if p.rest = [CodePoint.ofChar '\\'] then failAt .trailingBackslash p.position

def tokenOf? : Text → Option Text
  | [] => none
  | c :: rest => if c = '\\' then some (c :: rest.take 1) else some [c]

def peek : Reader (Option Text) := return tokenOf? (← get).rest

/-- The next token, and past it. -/
def take : Reader (Option Text) := do
  match ← peek with
  | none => return none
  | some token =>
    modify fun p =>
      { p with rest := p.rest.drop token.length, position := p.position + token.length }
    refuseLoneBackslash
    return some token

/-- Past the next token if it is the given character. -/
def accept (c : Char) : Reader Bool := do
  if (← peek) = some [CodePoint.ofChar c] then
    let _ ← take
    return true
  else return false

/-- Up to `n` single code points of a class. -/
def takeWhile (p : CodePoint → Bool) : Nat → Reader Text
  | 0 => return []
  | n + 1 => do
    match ← peek with
    | some [c] =>
      if p c then
        let _ ← take
        return c :: (← takeWhile p n)
      else return []
    | _ => return []

/-- All that comes before a terminator, and past that. -/
def nameUntil (terminator : Char) (what : Text) : Nat → Text → Reader Text
  | 0, found => return found
  | fuel + 1, found => do
    match ← take with
    | none =>
      if found.isEmpty then fail (.missing what)
      else fail (.unterminatedName terminator) found.length
    | some token =>
      if token = [CodePoint.ofChar terminator] then
        if found.isEmpty then fail (.missing what) 1 else return found
      else nameUntil terminator what fuel (found ++ token)

def takeName (terminator : Char) (what : Text) : Reader Text := do
  nameUntil terminator what ((← get).rest.length + 1) []

def groupWidth? (group : Nat) : Reader (Option Width) := do
  match group with
  | 0 => return none
  | n + 1 => return ((← get).groups[n]?).join

def groupCount : Reader Nat := return (← get).groups.length + 1

/-- Within a look-behind only groups from before it may be referred to. -/
def checkLookbehind (group : Nat) : Reader Unit := do
  match (← get).behindFrom with
  | none => return
  | some first =>
    if (← groupWidth? group).isNone then fail .openGroup
    if first ≤ group then fail .groupInSameLookbehind

def checkGroupName (name : Text) : Reader Unit := do
  if !name.isIdentifier then fail (.badGroupName name) (name.length + 1)

/-- The number of a new group. -/
def openGroup (name : Option Text) : Reader Nat := do
  let group ← groupCount
  modify fun p => { p with groups := p.groups ++ [none] }
  match name with
  | none => return group
  | some name =>
    match (← get).names.lookup name with
    | some former => fail (.redefinedGroupName name group former) (name.length + 1)
    | none =>
      modify fun p => { p with names := (name, group) :: p.names }
      return group

def closeGroup (group : Nat) (width : Width) : Reader Unit :=
  modify fun p => { p with groups := p.groups.set (group - 1) (some width) }

def expectClose (start : Nat) : Reader Unit := do
  if !(← accept ')') then failAt (.missing "), unterminated subpattern") start

/-- Past a comment whose `(?#` has been read. -/
def skipComment (start : Nat) : Nat → Reader Unit
  | 0 => return
  | fuel + 1 => do
    match ← peek with
    | none => failAt (.missing "), unterminated comment") start
    | some token =>
      let _ ← take
      if token ≠ ")" then skipComment start fuel

/-- Past the end of the line. -/
def skipLine : Nat → Reader Unit
  | 0 => return
  | fuel + 1 => do
    match ← take with
    | none => return
    | some token => if token ≠ "\n" then skipLine fuel

end Reader

end StepUp.Pattern
