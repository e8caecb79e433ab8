import StepUp.Pattern.Reader
import StepUp.Text.CharacterName

/-!
# Escapes and sets in patterns
-/

namespace StepUp.Pattern

open Reader

def isOctal (c : CodePoint) : Bool := 0x30 ≤ c.val && c.val ≤ 0x37

def octalValue (digits : Text) : Nat := digits.foldl (fun n c => 8 * n + (c.val - 0x30)) 0

def hexValue (digits : Text) : Nat :=
  digits.foldl (fun n c => 16 * n + (c.hexValue?).getD 0) 0

/-- The controls that have a letter. -/
def controlEscape? (c : CodePoint) : Option CodePoint :=
  if c = 'a' then some (.ofNat 0x07)
  else if c = 'f' then some (.ofNat 0x0C)
  else if c = 'n' then some (.ofNat 0x0A)
  else if c = 'r' then some (.ofNat 0x0D)
  else if c = 't' then some (.ofNat 0x09)
  else if c = 'v' then some (.ofNat 0x0B)
  else if c = '\\' then some c
  else none

def categoryEscape? (c : CodePoint) : Option SetItem :=
  if c = 'd' then some (.inCategory false .digit)
  else if c = 'D' then some (.inCategory true .digit)
  else if c = 's' then some (.inCategory false .space)
  else if c = 'S' then some (.inCategory true .space)
  else if c = 'w' then some (.inCategory false .word)
  else if c = 'W' then some (.inCategory true .word)
  else none

/-- A number of exactly `count` hexadecimal digits after the token. -/
def hexEscape (token : Text) (count : Nat) : Reader CodePoint := do
  let digits ← takeWhile (fun c => c.hexValue?.isSome) count
  let escape := token ++ digits
  if digits.length < count then fail (.incompleteEscape escape) escape.length
  let value := hexValue digits
  if 0x110000 ≤ value then fail (.badEscape escape) escape.length
  return .ofNat value

def nameEscape : Reader CodePoint := do
  if !(← accept '\x7b') then fail (.missing "\x7b")
  let name ← takeName '\x7d' "character name"
  match Text.characterOfName? name with
  | some c => return c
  | none => fail (.unknownCharacterName name) (name.length + 4)

/-- The escapes that mean the same everywhere: by number, by name, and of a code point that is
neither an ASCII letter nor a digit. -/
def commonEscape (token : Text) (c : CodePoint) : Reader CodePoint := do
  if c = 'x' then hexEscape token 2
  else if c = 'u' then hexEscape token 4
  else if c = 'U' then hexEscape token 8
  else if c = 'N' then nameEscape
  else if c.isAsciiLetter || c.isAsciiDigit then fail (.badEscape token) token.length
  else return c

/-- An escape inside a set. -/
def setEscape (token : Text) (c : CodePoint) : Reader SetItem := do
  if c = 'b' then return .literal (.ofNat 0x08)
  match controlEscape? c, categoryEscape? c with
  | some d, _ => return .literal d
  | none, some item => return item
  | none, none =>
    if isOctal c then
      let digits := c :: (← takeWhile isOctal 2)
      let escape := CodePoint.ofChar '\\' :: digits
      if 0xFF < octalValue digits then fail (.octalTooLarge escape) escape.length
      return .literal (.ofNat (octalValue digits))
    else return .literal (← commonEscape token c)

def setMember (token : Text) : Reader SetItem := do
  match token with
  | [_, c] => setEscape token c
  | c :: _ => return .literal c
  | [] => fail .unexpectedEnd

/-- The items of a set up to its closing bracket; a bracket in the first place is an item. `start`
is the position of the opening bracket. -/
def setItems (start : Nat) : Nat → List SetItem → Reader (List SetItem)
  | 0, items => return items
  | fuel + 1, items => do
    match ← take with
    | none => failAt .unterminatedSet start
    | some low =>
      if low = "]" && !items.isEmpty then return items
      let first ← setMember low
      if ← accept '-' then
        match ← take with
        | none => failAt .unterminatedSet start
        | some high =>
          if high = "]" then return items ++ [first, .literal '-']
          let last ← setMember high
          match first, last with
          | .literal lo, .literal hi =>
            if hi.val < lo.val then fail (.badRange low high) (low.length + 1 + high.length)
            setItems start fuel (items ++ [.range lo hi])
          | _, _ => fail (.badRange low high) (low.length + 1 + high.length)
      else setItems start fuel (items ++ [first])

/-- A set after its opening bracket. -/
def readSet (o : Options) : Reader Pattern := do
  let start := (← get).position - 1
  let negated ← accept '^'
  let items ← setItems start ((← get).rest.length + 1) []
  return .one (.ofSet o.folding o.ascii negated items)

def literal (o : Options) (c : CodePoint) : Pattern :=
  .one (.ofLiteral o.folding false c)

/-- A reference to a group by number, or up to three octal digits. -/
def digitEscape (o : Options) (c : CodePoint) : Reader Pattern := do
  if c = '0' then
    return literal o (.ofNat (octalValue (← takeWhile isOctal 2)))
  let second ← takeWhile CodePoint.isAsciiDigit 1
  let third ← if isOctal c && !second.isEmpty && second.all isOctal then takeWhile isOctal 1
    else pure []
  let digits := c :: second ++ third
  let length := digits.length + 1
  if !third.isEmpty then
    if 0xFF < octalValue digits then
      fail (.octalTooLarge (CodePoint.ofChar '\\' :: digits)) length
    return literal o (.ofNat (octalValue digits))
  let group := Text.toNat digits
  if group < (← groupCount) then
    match ← groupWidth? group with
    | none => fail .openGroup length
    | some width =>
      checkLookbehind group
      return .backref o.folding group width
  else fail (.invalidGroup group) (length - 1)

/-- An escape outside sets. -/
def readEscape (o : Options) (token : Text) (c : CodePoint) : Reader Pattern := do
  if c = 'A' then return .anchor .textStart
  if c = 'Z' then return .anchor .textEnd
  if c = 'b' then return .anchor (.wordBoundary o.ascii false)
  if c = 'B' then return .anchor (.wordBoundary o.ascii true)
  match categoryEscape? c, controlEscape? c with
  | some item, _ => return .one (.ofSet o.folding o.ascii false [item])
  | none, some d => return literal o d
  | none, none =>
    if c.isAsciiDigit then digitEscape o c
    else return literal o (← commonEscape token c)

end StepUp.Pattern
