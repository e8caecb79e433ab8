import StepUp.Pattern.Syntax

/-!
# Matching

`Pattern.search` looks for a way to describe a stretch of text from a spot on, in the order of
preference of the pattern, and hands each end to a continuation until one accepts. A repetition
that may go on stops after an iteration that moved nowhere.
-/

namespace StepUp.Pattern

/-- Where a group began the last time it was entered and how much text was left when it was last
closed, which may have been an earlier time. -/
structure Capture where
  start : Text
  startLeft : Nat
  stopLeft : Option Nat

namespace Capture

/-- A group that was entered again and not closed holds nothing, unless it closed right where it
was entered again. -/
def text? (c : Capture) : Option Text :=
  match c.stopLeft with
  | some stop => if stop ≤ c.startLeft then some (c.start.take (c.startLeft - stop)) else none
  | none => none

end Capture

/-- A position in a text: what lies before, the nearest first, what lies after, the length of
that, and the groups captured on the way. -/
structure Spot where
  before : Text
  after : Text
  left : Nat
  captures : List (Nat × Capture)

namespace Spot

def start (t : Text) : Spot := ⟨[], t, t.length, []⟩

def advance (s : Spot) (c : CodePoint) (rest : Text) : Spot :=
  { s with before := c :: s.before, after := rest, left := s.left - 1 }

/-- Step over a text if it comes next, up to folding. -/
def skip (fold : Folding) : Text → Spot → Option Spot
  | [], s => some s
  | c :: t, s =>
    match s.after with
    | [] => none
    | d :: rest => if fold.apply c = fold.apply d then skip fold t (s.advance d rest) else none

def retreat : Nat → Spot → Option Spot
  | 0, s => some s
  | n + 1, s =>
    match s.before with
    | [] => none
    | c :: before =>
      retreat n { s with before := before, after := c :: s.after, left := s.left + 1 }

def enter (s : Spot) (group : Nat) : Spot :=
  let stop := (s.captures.lookup group).bind Capture.stopLeft
  { s with captures := (group, ⟨s.after, s.left, stop⟩) :: s.captures }

def leave (s : Spot) (group : Nat) : Spot :=
  match s.captures.lookup group with
  | some c => { s with captures := (group, { c with stopLeft := some s.left }) :: s.captures }
  | none => s

def captured? (s : Spot) (group : Nat) : Option Text :=
  (s.captures.lookup group).bind Capture.text?

end Spot

namespace Anchor

def holds (a : Anchor) (s : Spot) : Bool :=
  match a with
  | .textStart => s.before.isEmpty
  | .lineStart => s.before.isEmpty || s.before.head? == some (CodePoint.ofChar '\n')
  | .textEnd => s.after.isEmpty
  | .lastLineEnd => s.after.isEmpty || s.after == [CodePoint.ofChar '\n']
  | .lineEnd => s.after.isEmpty || s.after.head? == some (CodePoint.ofChar '\n')
  | .wordBoundary ascii negated =>
    let isWord (c : Option CodePoint) : Bool :=
      match c with
      | some c => Category.word.includes ascii c
      | none => false
    !(s.before.isEmpty && s.after.isEmpty)
      && ((isWord s.before.head? != isWord s.after.head?) != negated)

end Anchor

/-- What a pattern does at a spot: find an end that the continuation accepts. -/
abbrev Search := Spot → (Spot → Option Spot) → Option Spot

/-- Exactly `n` times. -/
def Search.exactly (body : Search) : Nat → Search
  | 0, s, k => k s
  | n + 1, s, k => body s fun s' => exactly body n s' k

/-- At most `bound` more times, as many as possible first. Fuel bounds the iterations that move;
`last` is what was left before the preceding one. -/
def Search.greedily (body : Search) : Nat → Option Nat → Option Nat → Search
  | 0, _, _, s, k => k s
  | fuel + 1, bound, last, s, k =>
    if bound = some 0 || last = some s.left then k s
    else
      match body s fun s' => greedily body fuel (bound.map (· - 1)) (some s.left) s' k with
      | some found => some found
      | none => k s

/-- At most `bound` more times, as few as possible first. -/
def Search.lazily (body : Search) : Nat → Option Nat → Option Nat → Search
  | 0, _, _, s, k => k s
  | fuel + 1, bound, last, s, k =>
    match k s with
    | some found => some found
    | none =>
      if bound = some 0 || last = some s.left then none
      else body s fun s' => lazily body fuel (bound.map (· - 1)) (some s.left) s' k

/-- The first end of each iteration, with no way back. -/
def Search.possessively (body : Search) : Nat → Option Nat → Spot → Spot
  | 0, _, s => s
  | fuel + 1, bound, s =>
    if bound = some 0 then s
    else
      match body s some with
      | none => s
      | some s' =>
        if s'.left = s.left then s' else possessively body fuel (bound.map (· - 1)) s'

/-- `least` iterations, each at its first end. -/
def Search.possessivelyExactly (body : Search) : Nat → Spot → Option Spot
  | 0, s => some s
  | n + 1, s => (body s some).bind fun s' => possessivelyExactly body n s'

def search : Pattern → Search
  | .empty, s, k => k s
  | .one test, s, k =>
    match s.after with
    | [] => none
    | c :: rest => if test.accepts c then k (s.advance c rest) else none
  | .seq p q, s, k => p.search s fun s' => q.search s' k
  | .alt p q, s, k =>
    match p.search s k with
    | some found => some found
    | none => q.search s k
  | .capture group p, s, k => p.search (s.enter group) fun s' => k (s'.leave group)
  | .times greed least greatest p, s, k =>
    let bound := greatest.map (· - least)
    match greed with
    | .greedy =>
      Search.exactly p.search least s fun s' =>
        Search.greedily p.search (s'.left + 2) bound none s' k
    | .lazy =>
      Search.exactly p.search least s fun s' =>
        Search.lazily p.search (s'.left + 2) bound none s' k
    | .possessive =>
      match Search.possessivelyExactly p.search least s with
      | none => none
      | some s' => k (Search.possessively p.search (s'.left + 2) bound s')
  | .atomic p, s, k => (p.search s some).bind k
  | .ahead negated p, s, k =>
    match p.search s some with
    | some s' => if negated then none else k { s with captures := s'.captures }
    | none => if negated then k s else none
  | .behind negated p, s, k =>
    match s.retreat p.width.least with
    | none => if negated then k s else none
    | some s' =>
      match p.search s' some with
      | some s'' => if negated then none else k { s with captures := s''.captures }
      | none => if negated then k s else none
  | .anchor a, s, k => if a.holds s then k s else none
  | .backref fold group _, s, k =>
    match s.captured? group with
    | none => none
    | some t => (s.skip fold t).bind k
  | .conditional group present absent, s, k =>
    match s.captured? group with
    | some _ => present.search s k
    | none => absent.search s k

/-- Whether the pattern describes the whole text. -/
def describes (p : Pattern) (t : Text) : Bool :=
  (p.search (.start t) fun s => if s.after.isEmpty then some s else none).isSome

end StepUp.Pattern
