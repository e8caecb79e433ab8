import StepUp.Pattern.Escape

/-!
# Reading patterns

Alternatives of sequences of items, with repetitions, groups, look-around, references,
conditions, comments and options. `Pattern.compile` gives the tree or the reason for refusal.
-/

namespace StepUp.Pattern

open Reader

inductive ItemKind where
  | anchor
  | repetition
  | other
deriving DecidableEq

structure Item where
  kind : ItemKind
  pattern : Pattern

namespace Item

def ofPattern (p : Pattern) : Item :=
  match p with
  | .anchor _ => ⟨.anchor, p⟩
  | _ => ⟨.other, p⟩

/-- The sequence of items of which the last comes first. -/
def join (items : List Item) : Pattern :=
  match items with
  | [] => .empty
  | last :: before => before.foldl (fun p item => .seq item.pattern p) last.pattern

end Item

/-- From here on bounds are too large. -/
def boundLimit : Nat := 4294967295

def readBound (digits : Text) : Reader (Option Nat) := do
  if digits.isEmpty then return none
  if Json.maxDigits < digits.length then throw (.oversizedBound digits.length)
  let n := Text.toNat digits
  if boundLimit ≤ n then throw .hugeBound
  return some n

/-- The bounds of a quantifier whose first token has been read, or none for a brace that is a
plain character. -/
def readQuantifier (token : Text) : Reader (Option (Nat × Option Nat)) := do
  if token = "?" then return some (0, some 1)
  if token = "*" then return some (0, none)
  if token = "+" then return some (1, none)
  let here ← get
  if (← peek) = some "\x7d" then return none
  let fuel := here.rest.length
  let low ← takeWhile CodePoint.isAsciiDigit fuel
  let high ← if ← accept ',' then takeWhile CodePoint.isAsciiDigit fuel else pure low
  if !(← accept '\x7d') then
    set here
    return none
  let least ← readBound low
  let greatest ← readBound high
  let least := least.getD 0
  match greatest with
  | none => return some (least, none)
  | some n =>
    if n < least then failAt .reversedBounds here.position
    return some (least, some n)

/-- What stands behind a quantifier. -/
def readGreed : Reader Greed := do
  if ← accept '?' then return .lazy
  if ← accept '+' then return .possessive
  return .greedy

/-- Repeat the last item. `start` is the position of the quantifier. -/
def repeatLast (start : Nat) (bounds : Nat × Option Nat) (items : List Item) :
    Reader (List Item) := do
  match items with
  | [] => failAt .nothingToRepeat start
  | item :: before =>
    if item.kind = .anchor then failAt .nothingToRepeat start
    if item.kind = .repetition then failAt .multipleRepeat start
    let greed ← readGreed
    return ⟨.repetition, .times greed bounds.1 bounds.2 item.pattern⟩ :: before

/-- The letters of options. -/
inductive Flag where
  | ignoreCase
  | locale
  | multiline
  | dotAll
  | verbose
  | ascii
  | template
  | unicode
deriving DecidableEq

namespace Flag

def ofToken? (token : Text) : Option Flag :=
  if token = "i" then some .ignoreCase
  else if token = "L" then some .locale
  else if token = "m" then some .multiline
  else if token = "s" then some .dotAll
  else if token = "x" then some .verbose
  else if token = "a" then some .ascii
  else if token = "t" then some .template
  else if token = "u" then some .unicode
  else none

/-- The flags that say which characters belong to the categories. -/
def isType (f : Flag) : Bool := f = .ascii || f = .unicode || f = .locale

end Flag

namespace Options

def add (o : Options) : Flag → Options
  | .ignoreCase => { o with ignoreCase := true }
  | .multiline => { o with multiline := true }
  | .dotAll => { o with dotAll := true }
  | .verbose => { o with verbose := true }
  | .ascii => { o with ascii := true }
  | .unicode => { o with ascii := false }
  | .locale | .template => o

def remove (o : Options) : Flag → Options
  | .ignoreCase => { o with ignoreCase := false }
  | .multiline => { o with multiline := false }
  | .dotAll => { o with dotAll := false }
  | .verbose => { o with verbose := false }
  | _ => o

end Options

/-- An unexpected token among flags. -/
def failAtFlag {α : Type} (token : Text) (otherwise : Text) : Reader α :=
  let isWord := match token with
    | [c] => c.isLetter
    | _ => false
  fail (if isWord then .unknownFlag else .missing otherwise) token.length

/-- The flags that are turned on, from the one just read up to a delimiter, and that. -/
def flagsOn : Nat → Flag → List Flag → Reader (List Flag × Text)
  | 0, _, _ => fail .unexpectedEnd
  | fuel + 1, flag, on => do
    if flag = .locale then fail .localeFlag
    if flag.isType && on.any (fun f => f.isType && f ≠ flag) then fail .incompatibleFlags
    let on := flag :: on
    match ← take with
    | none => fail (.missing "-, : or )")
    | some token =>
      if token = ")" || token = "-" || token = ":" then return (on, token)
      match Flag.ofToken? token with
      | some next => flagsOn fuel next on
      | none => failAtFlag token "-, : or )"

/-- The flags that are turned off, from the one just read up to the colon. -/
def flagsOff : Nat → Flag → List Flag → Reader (List Flag)
  | 0, _, _ => fail .unexpectedEnd
  | fuel + 1, flag, off => do
    if flag.isType then fail .typeFlagOff
    let off := flag :: off
    match ← take with
    | none => fail (.missing ":")
    | some token =>
      if token = ":" then return off
      match Flag.ofToken? token with
      | some next => flagsOff fuel next off
      | none => failAtFlag token ":"

inductive FlagGroup where
  /-- Flags for the whole pattern. -/
  | whole (on : List Flag)
  /-- Flags for the group that the colon opens. -/
  | scoped (on off : List Flag)

/-- Flags after the first token behind the question mark. -/
def readFlags (first : Option Flag) : Reader FlagGroup := do
  let fuel := (← get).rest.length + 1
  let (on, delimiter) ← match first with
    | some flag => flagsOn fuel flag []
    | none => pure ([], "-")
  if delimiter = ")" then return .whole on
  if on.contains .template then fail .globalFlagOn 1
  if delimiter ≠ "-" then return .scoped on []
  match ← take with
  | none => fail (.missing "flag")
  | some token =>
    match Flag.ofToken? token with
    | none => failAtFlag token "flag"
    | some flag =>
      let off ← flagsOff fuel flag []
      if off.contains .template then fail .globalFlagOff 1
      if on.any off.contains then fail .flagOnAndOff 1
      return .scoped on off

/-- The value of a decimal digit of any script. -/
def digitValue (c : CodePoint) : Nat :=
  match Text.decimalDigitRanges.find? fun r => r.1 ≤ c.val && c.val ≤ r.2 with
  | some r => (c.val - r.1) % 10
  | none => 0

/-- The number that a condition names: digits of any script with single underscores between them,
a sign in front and white space around. -/
def groupNumber? (name : Text) : Option Nat :=
  let t := name.strip
  let (negative, body) := match t with
    | c :: rest => if c = '-' then (true, rest) else if c = '+' then (false, rest) else (false, t)
    | [] => (false, [])
  let parts := Text.splitOn (CodePoint.ofChar '_') body
  let digits := parts.flatten
  if (parts.all fun p => !p.isEmpty && p.all CodePoint.isDecimalDigit)
      && digits.length ≤ Json.maxDigits then
    let n := digits.foldl (fun n c => 10 * n + digitValue c) 0
    if negative && n != 0 then none else some n
  else none

/-- Group numbers end here. -/
def maxGroups : Nat := 2147483647

/-- The group that a condition asks for. A number may be that of a later group. -/
def readCondition : Reader Nat := do
  let name ← takeName ')' "group name"
  let offset := name.length + 1
  let group ← if name.isIdentifier then
      match (← get).names.lookup name with
      | some group => pure group
      | none => fail (.unknownGroupName name) offset
    else
      match groupNumber? name with
      | none => fail (.badGroupName name) offset
      | some 0 => fail .badGroupNumber offset
      | some n =>
        if maxGroups ≤ n then fail (.invalidGroup n) offset
        modify fun p =>
          if (p.pending.lookup n).isSome then p
          else { p with pending := p.pending ++ [(n, p.position - offset)] }
        pure n
  checkLookbehind group
  return group

/-- A reference to a group by name. -/
def readNamedReference (o : Options) : Reader Pattern := do
  let name ← takeName ')' "group name"
  checkGroupName name
  match (← get).names.lookup name with
  | none => fail (.unknownGroupName name) (name.length + 1)
  | some group =>
    match ← groupWidth? group with
    | none => fail .openGroup (name.length + 1)
    | some width =>
      checkLookbehind group
      return .backref o.folding group width

/-- What a parenthesis turned out to be. -/
inductive Piece where
  | nothing
  | options (o : Options)
  | item (p : Pattern)

def setWholeFlags (on : List Flag) : Reader Options := do
  modify fun p =>
    { p with
      options := (on.filter (· ≠ .unicode)).foldl Options.add p.options
      unicode := p.unicode || on.contains .unicode
      template := p.template || on.contains .template }
  return (← get).options

def isVerboseSpace (token : Text) : Bool :=
  match token with
  | [c] => c.val == 0x20 || (0x09 ≤ c.val && c.val ≤ 0x0D)
  | _ => false

mutual

/-- Alternatives. Only the first one of the whole pattern may set options for all of it. -/
def readAlternatives : Nat → Options → Bool → Bool → Reader Pattern
  | 0, _, _, _ => fail .unexpectedEnd
  | fuel + 1, o, whole, first => do
    let p ← readSequence fuel o (whole && first) []
    if ← accept '|' then
      let o ← if whole then pure (← get).options else pure o
      let q ← readAlternatives fuel o whole false
      return .alt p q
    else return p

/-- Items up to a bar, a closing parenthesis or the end. -/
def readSequence : Nat → Options → Bool → List Item → Reader Pattern
  | 0, _, _, _ => fail .unexpectedEnd
  | fuel + 1, o, first, items => do
    match ← peek with
    | none => return Item.join items
    | some token =>
      if token = "|" || token = ")" then return Item.join items
      let start := (← get).position
      let _ ← take
      if o.verbose && isVerboseSpace token then readSequence fuel o first items
      else if o.verbose && token = "#" then
        skipLine ((← get).rest.length + 1)
        readSequence fuel o first items
      else if token = "[" then
        let p ← readSet o
        readSequence fuel o first (.ofPattern p :: items)
      else if token = "." then
        let p : Pattern := .one (if o.dotAll then .any else .notNewline)
        readSequence fuel o first (.ofPattern p :: items)
      else if token = "^" then
        let a := if o.multiline then Anchor.lineStart else Anchor.textStart
        readSequence fuel o first (.ofPattern (.anchor a) :: items)
      else if token = "$" then
        let a := if o.multiline then Anchor.lineEnd else Anchor.lastLineEnd
        readSequence fuel o first (.ofPattern (.anchor a) :: items)
      else if token = "(" then
        match ← readParenthesis fuel o start first items.isEmpty with
        | .nothing => readSequence fuel o first items
        | .options o => readSequence fuel o first items
        | .item p => readSequence fuel o first (⟨.other, p⟩ :: items)
      else if token = "?" || token = "*" || token = "+" || token = "\x7b" then
        match ← readQuantifier token with
        | some bounds =>
          let items ← repeatLast start bounds items
          readSequence fuel o first items
        | none => readSequence fuel o first (.ofPattern (literal o '\x7b') :: items)
      else
        match token with
        | [_, c] =>
          let p ← readEscape o token c
          readSequence fuel o first (.ofPattern p :: items)
        | c :: _ => readSequence fuel o first (.ofPattern (literal o c) :: items)
        | [] => readSequence fuel o first items

/-- What follows an opening parenthesis at `start`. -/
def readParenthesis : Nat → Options → Nat → Bool → Bool → Reader Piece
  | 0, _, _, _, _ => fail .unexpectedEnd
  | fuel + 1, o, start, first, isFirstItem => do
    if !(← accept '?') then return .item (← readGroup fuel o start none)
    match ← take with
    | none => fail .unexpectedEnd
    | some token =>
      if token = "P" then
        if ← accept '<' then
          let name ← takeName '>' "group name"
          checkGroupName name
          return .item (← readGroup fuel o start (some name))
        if ← accept '=' then return .item (← readNamedReference o)
        match ← take with
        | none => fail .unexpectedEnd
        | some token => fail (.unknownExtension ("P" ++ token)) (token.length + 2)
      else if token = ":" then
        let p ← readAlternatives fuel o false false
        expectClose start
        return .item p
      else if token = "#" then
        skipComment start ((← get).rest.length + 1)
        return .nothing
      else if token = "=" || token = "!" then
        let p ← readAlternatives fuel o false false
        expectClose start
        return .item (.ahead (token = "!") p)
      else if token = "<" then
        match ← take with
        | none => fail .unexpectedEnd
        | some token =>
          if token ≠ "=" && token ≠ "!" then
            fail (.unknownExtension ("<" ++ token)) (token.length + 2)
          let outer := (← get).behindFrom
          let count ← groupCount
          modify fun p => { p with behindFrom := some (outer.getD count) }
          let p ← readAlternatives fuel o false false
          modify fun p => { p with behindFrom := outer }
          expectClose start
          return .item (.behind (token = "!") p)
      else if token = "(" then
        let group ← readCondition
        let present ← readSequence fuel o false []
        let absent ← if ← accept '|' then
            let absent ← readSequence fuel o false []
            if (← peek) = some "|" then fail .tooManyBranches
            pure absent
          else pure .empty
        expectClose start
        return .item (.conditional group present absent)
      else if token = ">" then
        let p ← readAlternatives fuel o false false
        expectClose start
        return .item (.atomic p)
      else if token = "-" || (Flag.ofToken? token).isSome then
        match ← readFlags (Flag.ofToken? token) with
        | .whole on =>
          let whole ← setWholeFlags on
          if !first || !isFirstItem then failAt .lateGlobalFlags start
          return .options whole
        | .scoped on off =>
          let inner := off.foldl Options.remove (on.foldl Options.add o)
          let p ← readAlternatives fuel inner false false
          expectClose start
          return .item p
      else fail (.unknownExtension token) (token.length + 1)

/-- A capturing group after its opening. -/
def readGroup : Nat → Options → Nat → Option Text → Reader Pattern
  | 0, _, _, _ => fail .unexpectedEnd
  | fuel + 1, o, start, name => do
    let group ← openGroup name
    let p ← readAlternatives fuel o false false
    expectClose start
    closeGroup group p.width
    return .capture group p

end

/-- The whole pattern: nothing may be left, and conditions ask for groups that exist. -/
def readPattern (t : Text) : Reader Pattern := do
  refuseLoneBackslash
  let p ← readAlternatives (4 * t.length + 8) {} true true
  let done ← get
  if done.options.ascii && done.unicode then throw .flagConflict
  if !done.rest.isEmpty then fail .unbalancedParenthesis
  match done.pending.find? fun reference => done.groups.length < reference.1 with
  | some (group, position) => failAt (.invalidGroup group) position
  | none => return p

/-- The pattern that a text denotes. -/
def compile (t : Text) : Except Refusal Pattern := do
  let (p, done) ← (readPattern t).run { rest := t, position := 0 }
  match p.complaint? done.template with
  | some complaint => .error (.malformed complaint none)
  | none => return p

end StepUp.Pattern
