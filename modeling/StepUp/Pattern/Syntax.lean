import StepUp.Pattern.CharTest
import StepUp.Pattern.Complaint

/-!
# Patterns

The syntax tree of a pattern, with all options already resolved into the tests. `Pattern.width`
bounds the length of what a pattern describes; a look-behind needs both bounds to agree.
-/

namespace StepUp

namespace Pattern

inductive Greed where
  | greedy
  | lazy
  | possessive
deriving DecidableEq

inductive Anchor where
  | textStart
  | lineStart
  | textEnd
  /-- The end, or before a line break that ends the text. -/
  | lastLineEnd
  | lineEnd
  | wordBoundary (ascii : Bool) (negated : Bool)
deriving DecidableEq

/-- Least and greatest length, as far as they are counted. -/
structure Width where
  least : Nat
  greatest : Nat
deriving DecidableEq

namespace Width

/-- Lengths from here on are not told apart. -/
def limit : Nat := Nat.pow 2 64

def capped (least greatest : Nat) : Width := ⟨min least limit, min greatest limit⟩

def add (v w : Width) : Width := capped (v.least + w.least) (v.greatest + w.greatest)

def either (v w : Width) : Width := ⟨min v.least w.least, max v.greatest w.greatest⟩

def times (least : Nat) (greatest : Option Nat) (w : Width) : Width :=
  capped (least * w.least) <| match greatest with
    | some n => n * w.greatest
    | none => if w.greatest = 0 then 0 else limit

end Width

end Pattern

inductive Pattern where
  | empty
  | one (test : Pattern.CharTest)
  | seq (first second : Pattern)
  | alt (first second : Pattern)
  | capture (group : Nat) (body : Pattern)
  | times (greed : Pattern.Greed) (least : Nat) (greatest : Option Nat) (body : Pattern)
  | atomic (body : Pattern)
  | ahead (negated : Bool) (body : Pattern)
  | behind (negated : Bool) (body : Pattern)
  | anchor (anchor : Pattern.Anchor)
  | backref (fold : Pattern.Folding) (group : Nat) (width : Pattern.Width)
  | conditional (group : Nat) (present absent : Pattern)

namespace Pattern

def width : Pattern → Width
  | .empty => ⟨0, 0⟩
  | .one _ => ⟨1, 1⟩
  | .seq p q => p.width.add q.width
  | .alt p q => p.width.either q.width
  | .capture _ p => p.width
  | .times _ least greatest p => p.width.times least greatest
  | .atomic p => p.width
  | .ahead _ _ => ⟨0, 0⟩
  | .behind _ _ => ⟨0, 0⟩
  | .anchor _ => ⟨0, 0⟩
  | .backref _ _ w => w
  | .conditional _ p q => p.width.either q.width

/-- The farthest that a look-behind looks. -/
def maxLookbehind : Nat := 4294967295

def Greed.operatorName : Greed → Text
  | .greedy => "MAX_REPEAT"
  | .lazy => "MIN_REPEAT"
  | .possessive => "POSSESSIVE_REPEAT"

/-- What is wrong with a pattern that was read without complaint, the outermost and leftmost
first: a look-behind without a fixed width, and any repetition in a template. -/
def complaint? (template : Bool) : Pattern → Option Complaint
  | .empty => none
  | .one _ => none
  | .seq p q => (p.complaint? template).or (q.complaint? template)
  | .alt p q => (p.complaint? template).or (q.complaint? template)
  | .capture _ p => p.complaint? template
  | .times greed _ _ p =>
    if template then some (.templateOperator greed.operatorName) else p.complaint? template
  | .atomic p => p.complaint? template
  | .ahead _ p => p.complaint? template
  | .behind _ p =>
    if maxLookbehind < p.width.least then some .longLookbehind
    else if p.width.least ≠ p.width.greatest then some .variableLookbehind
    else p.complaint? template
  | .anchor _ => none
  | .backref _ _ _ => none
  | .conditional _ p q => (p.complaint? template).or (q.complaint? template)

end Pattern

end StepUp
