import StepUp.Text.CodePoint

/-!
# Similar words

How much two texts have in common is counted in blocks: the longest block that occurs in both, the
earliest of several, and then the same on the texts before it and behind it. Words of which at
least three fifths are in common count as similar.
-/

namespace StepUp.Text

/-- The number of code points that two texts have in common at their beginnings. -/
def commonStart : Text → Text → Nat
  | a :: s, b :: t => if a = b then commonStart s t + 1 else 0
  | _, _ => 0

/-- A block that occurs in both of two texts, by its places and its length. -/
structure Block where
  left : Nat := 0
  right : Nat := 0
  length : Nat := 0

/-- The first longest block at the beginning of the one text and anywhere in the other. -/
def blockAt (left : Nat) (s : Text) : Nat → Text → Block → Block
  | _, [], best => best
  | right, b :: t, best =>
    let n := commonStart s (b :: t)
    blockAt left s (right + 1) t (if best.length < n then ⟨left, right, n⟩ else best)

def longestBlockFrom (t : Text) : Nat → Text → Block → Block
  | _, [], best => best
  | left, a :: s, best => longestBlockFrom t (left + 1) s (blockAt left (a :: s) 0 t best)

/-- The longest block, of several the earliest in the first text, then in the second. -/
def longestBlock (s t : Text) : Block := longestBlockFrom t 0 s {}

/-- Each block takes at least one code point, so the length of the first text is enough fuel. -/
def inCommonWithin : Nat → Text → Text → Nat
  | 0, _, _ => 0
  | fuel + 1, s, t =>
    let b := longestBlock s t
    if b.length = 0 then 0
    else inCommonWithin fuel (s.take b.left) (t.take b.right) + b.length
      + inCommonWithin fuel (s.drop (b.left + b.length)) (t.drop (b.right + b.length))

/-- The number of code points in blocks that two texts have in common. -/
def inCommon (s t : Text) : Nat := inCommonWithin s.length s t

/-- At most three of the candidates that are similar to a word, in order. -/
def similarTo (word : Text) (candidates : List Text) : List Text :=
  let scored := candidates.map fun c => (2 * inCommon c word, c.length + word.length, c)
  let near := scored.filter fun (n, d, _) => 3 * d ≤ 5 * n
  let better (x y : Nat × Nat × Text) : Bool :=
    y.1 * x.2.1 < x.1 * y.2.1 || (x.1 * y.2.1 == y.1 * x.2.1 && le y.2.2 x.2.2)
  (((near.mergeSort better).take 3).map fun x => x.2.2).mergeSort le

end StepUp.Text
