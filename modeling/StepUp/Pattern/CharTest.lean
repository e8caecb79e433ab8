import StepUp.Text.Letters
import StepUp.Text.Blank
import StepUp.Text.Case

/-!
# Tests of one code point

What a single step of a pattern asks of a code point: to be any, to be a given one, or to belong
to a set, with or without regard to case. Case is disregarded by comparing lower case forms, and
among all of Unicode also those that share an upper case form.
-/

namespace StepUp.Pattern

inductive Folding where
  | none
  | ascii
  | unicode
deriving DecidableEq

namespace Folding

def apply : Folding → CodePoint → CodePoint
  | .none, c => c
  | .ascii, c => c.toAsciiLower
  | .unicode, c => c.toLower

/-- Whether case makes a difference to a code point. -/
def isCased : Folding → CodePoint → Bool
  | .none, _ => false
  | .ascii, c => c.isAsciiLetter
  | .unicode, c => c.isCased

/-- The folded forms that count as the same as a folded code point. -/
def equals : Folding → CodePoint → List Nat
  | .unicode, c => c.val :: c.sharedUpper
  | _, c => [c.val]

/-- The numbers that fold to the same as a folded code point. -/
def variants : Folding → CodePoint → List Nat
  | .none, c => [c.val]
  | .ascii, c =>
    if 0x61 ≤ c.val && c.val ≤ 0x7A then [c.val, c.val - 0x20]
    else if 0x41 ≤ c.val && c.val ≤ 0x5A then []
    else [c.val]
  | .unicode, c => c.caseVariants

def anyCased : Folding → Nat → Nat → Bool
  | .none, _, _ => false
  | .ascii, lo, hi => (lo ≤ 0x5A && 0x41 ≤ hi) || (lo ≤ 0x7A && 0x61 ≤ hi)
  | .unicode, lo, hi => CodePoint.anyCased lo hi

end Folding

inductive Category where
  | digit
  | space
  | word
deriving DecidableEq

namespace Category

def includes (ascii : Bool) : Category → CodePoint → Bool
  | .digit, c => if ascii then c.isAsciiDigit else c.isDecimalDigit
  | .space, c =>
    if ascii then (0x09 ≤ c.val && c.val ≤ 0x0D) || c.val == 0x20 else c.isSpace
  | .word, c =>
    (if ascii then c.isAsciiDigit || c.isAsciiLetter else c.isAlphanumeric) || c.val == 0x5F

end Category

inductive SetItem where
  | literal (c : CodePoint)
  | range (lo hi : CodePoint)
  | inCategory (negated : Bool) (category : Category)
deriving DecidableEq

namespace SetItem

/-- The first number beyond the basic plane. -/
def basicPlaneEnd : Nat := 0x10000

/-- Whether a set with this item disregards case. Code points beyond the basic plane count as
cased. -/
def isCased (fold : Folding) : SetItem → Bool
  | .literal c => fold != .none && (basicPlaneEnd ≤ c.val || fold.isCased c)
  | .range lo hi =>
    fold != .none && (basicPlaneEnd ≤ hi.val || fold.anyCased lo.val hi.val)
  | .inCategory _ _ => false

def includes (ascii : Bool) : SetItem → CodePoint → Bool
  | .literal c, d => d == c
  | .range lo hi, d => lo.val ≤ d.val && d.val ≤ hi.val
  | .inCategory negated category, d => category.includes ascii d != negated

/-- The same for a folded code point. Beyond the basic plane a literal has to be folded itself and
a range includes what it includes in lower or in upper case. -/
def includesFolded (fold : Folding) (ascii : Bool) : SetItem → CodePoint → Bool
  | .literal c, d =>
    if basicPlaneEnd ≤ c.val then d == c else (fold.variants d).contains c.val
  | .range lo hi, d =>
    (fold.variants d).any (fun n => n < basicPlaneEnd && lo.val ≤ n && n ≤ hi.val)
      || (basicPlaneEnd ≤ hi.val
        && ((lo.val ≤ d.val && d.val ≤ hi.val)
          || (lo.val ≤ d.toUpper.val && d.toUpper.val ≤ hi.val)))
  | .inCategory negated category, d => category.includes ascii d != negated

end SetItem

inductive CharTest where
  | any
  | notNewline
  /-- The folded code point is one of the targets. -/
  | literal (fold : Folding) (negated : Bool) (targets : List Nat)
  | oneOf (fold : Folding) (ascii : Bool) (negated : Bool) (items : List SetItem)

namespace CharTest

def ofLiteral (fold : Folding) (negated : Bool) (c : CodePoint) : CharTest :=
  if fold.isCased c then .literal fold negated (fold.equals (fold.apply c))
  else .literal .none negated [c.val]

/-- A set of one literal is that literal. -/
def ofSet (fold : Folding) (ascii : Bool) (negated : Bool) (items : List SetItem) : CharTest :=
  match items.eraseDups with
  | [.literal c] => ofLiteral fold negated c
  | items =>
    if items.any (SetItem.isCased fold) then .oneOf fold ascii negated items
    else .oneOf .none ascii negated items

def accepts : CharTest → CodePoint → Bool
  | .any, _ => true
  | .notNewline, c => c.val != 0x0A
  | .literal fold negated targets, c => targets.contains (fold.apply c).val != negated
  | .oneOf .none ascii negated items, c => items.any (·.includes ascii c) != negated
  | .oneOf fold ascii negated items, c =>
    let folded := fold.apply c
    items.any (·.includesFolded fold ascii folded) != negated

end CharTest

end StepUp.Pattern
