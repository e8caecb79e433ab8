import Mathlib.Data.Set.Insert
import StepUp.Proofs.Pattern.Search
import StepUp.Text.Decimal

/-!
# What a pattern denotes

The plain part of the language of patterns: code points, escaped punctuation, the dot, sets,
groups, quantifiers that are greedy or lazy, sequences and alternatives. Such a pattern denotes a
regular language (`Denotes`): single code points, their products, sums and repetitions, put
together as the pattern is. Neither the order of alternatives nor the greed of a quantifier has a
part in it.

Anchors, categories, flags, references, look-around and what cannot be taken back have no place in
the grammar. A quantifier never stands in front (`Denotes.fresh`), so it always belongs to the item
before it.
-/

namespace StepUp.Pattern

/-! ## Tokens and sets -/

/-- A token that stands for a code point: that itself, or a backslash and the code point, if it is
neither an ASCII letter nor a digit. -/
inductive Spells : Text → CodePoint → Prop
  | plain {c : CodePoint} (unescaped : c ≠ '\\') : Spells [c] c
  | escaped {c : CodePoint} (letter : c.isAsciiLetter = false) (digit : c.isAsciiDigit = false) :
    Spells ['\\', c] c

/-- A set up to its closing bracket, behind what opened it or behind further members, and the code
points that it adds. In the first place a closing bracket is a member, and at the end so is a
hyphen. -/
inductive Members : Bool → Text → Set CodePoint → Prop
  | close : Members false "]" ∅
  | one {first : Bool} {s t : Text} {c : CodePoint} {S : Set CodePoint} (member : Spells s c)
    (place : s = "]" → first = true) (single : t.head? ≠ some (CodePoint.ofChar '-'))
    (more : Members false t S) : Members first (s ++ t) (insert c S)
  | range {first : Bool} {s s' t : Text} {lo hi : CodePoint} {S : Set CodePoint}
    (low : Spells s lo) (place : s = "]" → first = true) (high : Spells s' hi) (inner : s' ≠ "]")
    (more : Members false t S) :
    Members first (s ++ CodePoint.ofChar '-' :: (s' ++ t))
      ({c | lo.val ≤ c.val ∧ c.val ≤ hi.val} ∪ S)
  | hyphen {first : Bool} {s : Text} {c : CodePoint} (member : Spells s c)
    (place : s = "]" → first = true) : Members first (s ++ ("-]" : Text)) {c, CodePoint.ofChar '-'}

/-! ## Quantifiers -/

def Digits (t : Text) : Prop := ∀ c ∈ t, c.isAsciiDigit = true

/-- Bounds behind an opening brace, and the closing one. A missing lower bound is zero. -/
inductive Braced : Text → Nat → Option Nat → Prop
  | exactly {ds : Text} (digits : Digits ds) (present : ds ≠ []) :
    Braced (ds ++ ("\x7d" : Text)) (Text.toNat ds) (some (Text.toNat ds))
  | atLeast {ds : Text} (digits : Digits ds) : Braced (ds ++ (",\x7d" : Text)) (Text.toNat ds) none
  | between {ds es : Text} (digits : Digits ds) (digits' : Digits es) (present : es ≠ []) :
    Braced (ds ++ CodePoint.ofChar ',' :: (es ++ ("\x7d" : Text))) (Text.toNat ds)
      (some (Text.toNat es))

/-- The text begins with bounds, so that a brace in front of it opens them. -/
def Opens (t : Text) : Prop :=
  ∃ b v least greatest, t = b ++ v ∧ Braced b least greatest

inductive Quantifier : Text → Nat → Option Nat → Prop
  | star : Quantifier "*" 0 none
  | plus : Quantifier "+" 1 none
  | optional : Quantifier "?" 0 (some 1)
  | braces {b : Text} {least : Nat} {greatest : Option Nat} (bounds : Braced b least greatest) :
    Quantifier ('\x7b' :: b) least greatest

/-- What stands behind a quantifier that is greedy or lazy. -/
inductive Preference : Text → Prop
  | greedy : Preference ""
  | lazy : Preference "?"

/-! ## The grammar -/

/-- The code points that do not stand for themselves. A brace does, unless it opens bounds. -/
def special : Text := "\\.^$*+?[|()"

mutual

/-- Alternatives. -/
inductive Denotes : Text → Language CodePoint → Prop
  | sequence {t : Text} {L : Language CodePoint} (only : Sequence t L) : Denotes t L
  | either {s t : Text} {L M : Language CodePoint} (first : Sequence s L) (others : Denotes t M) :
    Denotes (s ++ CodePoint.ofChar '|' :: t) (L + M)

/-- Items, each with or without a quantifier. -/
inductive Sequence : Text → Language CodePoint → Prop
  | empty : Sequence [] 1
  | item {s t : Text} {L M : Language CodePoint} (first : Atom s L)
    (brace : s = "\x7b" → ¬ Opens t) (others : Sequence t M) : Sequence (s ++ t) (L * M)
  | repeated {s q mark t : Text} {L M : Language CodePoint} {least : Nat} {greatest : Option Nat}
    (first : Atom s L) (quantifier : Quantifier q least greatest) (preference : Preference mark)
    (others : Sequence t M) :
    Sequence (s ++ (q ++ (mark ++ t))) (repetition least greatest L * M)

/-- One code point of some kind, or a group. -/
inductive Atom : Text → Language CodePoint → Prop
  | literal {c : CodePoint} (plain : c ∉ special) : Atom [c] (single {c})
  | escaped {c : CodePoint} (letter : c.isAsciiLetter = false) (digit : c.isAsciiDigit = false) :
    Atom ['\\', c] (single {c})
  | dot : Atom "." (single {c | c ≠ CodePoint.ofChar '\n'})
  | set {t : Text} {S : Set CodePoint} (members : Members true t S)
    (plain : t.head? ≠ some (CodePoint.ofChar '^')) : Atom ('[' :: t) (single S)
  | complement {t : Text} {S : Set CodePoint} (members : Members true t S) :
    Atom ('[' :: '^' :: t) (single Sᶜ)
  | capture {t : Text} {L : Language CodePoint} (body : Denotes t L) :
    Atom ('(' :: (t ++ (")" : Text))) L
  | named {name t : Text} {L : Language CodePoint} (plain : ∀ c ∈ name, c ≠ '\\' ∧ c ≠ '>')
    (body : Denotes t L) :
    Atom ('(' :: '?' :: 'P' :: '<' :: (name ++ CodePoint.ofChar '>' :: (t ++ (")" : Text)))) L
  | group {t : Text} {L : Language CodePoint} (body : Denotes t L) :
    Atom ('(' :: '?' :: ':' :: (t ++ (")" : Text))) L

end

/-! ## The first code point -/

theorem Braced.mem {b : Text} {least : Nat} {greatest : Option Nat} {c : CodePoint}
    (h : Braced b least greatest) (hc : c ∈ b) : c.isAsciiDigit = true ∨ c ∈ (",\x7d" : Text) := by
  have hends : ∀ c ∈ ("\x7d" : Text), c ∈ (",\x7d" : Text) := by decide
  cases h with
  | exactly digits =>
    rcases List.mem_append.mp hc with hc | hc
    · exact Or.inl (digits c hc)
    · exact Or.inr (hends c hc)
  | atLeast digits =>
    rcases List.mem_append.mp hc with hc | hc
    · exact Or.inl (digits c hc)
    · exact Or.inr hc
  | between digits digits' =>
    rcases List.mem_append.mp hc with hc | hc
    · exact Or.inl (digits c hc)
    · rcases List.mem_cons.mp hc with rfl | hc
      · exact Or.inr (by decide)
      · rcases List.mem_append.mp hc with hc | hc
        · exact Or.inl (digits' c hc)
        · exact Or.inr (hends c hc)

theorem Braced.ne_nil {b : Text} {least : Nat} {greatest : Option Nat}
    (h : Braced b least greatest) : b ≠ [] := by
  cases h <;> simp [Text.ofString]

/-- A quantifier opens no bounds behind a brace. -/
theorem Quantifier.not_opens {s t : Text} {least : Nat} {greatest : Option Nat}
    (h : Quantifier s least greatest) : ¬ Opens (s ++ t) := by
  rintro ⟨b, v, m, n, heq, hb⟩
  obtain ⟨c, b, rfl⟩ := List.exists_cons_of_ne_nil hb.ne_nil
  have hc := hb.mem List.mem_cons_self
  have hhead : (s ++ t).head? = some c := congrArg List.head? heq
  cases h <;> cases hhead <;> revert hc <;> decide

/-- The text does not begin with what would repeat an item in front of it or mark a group. -/
def Fresh (t : Text) : Prop := ∀ c ∈ t.head?, c ∉ ("*+?" : Text)

theorem Fresh.append {s t : Text} (hs : Fresh s) (ht : Fresh t) : Fresh (s ++ t) := by
  cases s with
  | nil => exact ht
  | cons => exact hs

theorem Atom.ne_nil {s : Text} {L : Language CodePoint} (h : Atom s L) : s ≠ [] := by
  cases h <;> exact List.cons_ne_nil _ _

theorem Atom.fresh {s : Text} {L : Language CodePoint} (h : Atom s L) : Fresh s := by
  have hspecial : ∀ c ∈ ("*+?" : Text), c ∈ special := by decide
  cases h with
  | @literal c plain =>
    rintro _ ⟨⟩ hc
    exact plain (hspecial c hc)
  | _ =>
    rintro _ ⟨⟩
    decide

theorem Sequence.fresh {t : Text} {L : Language CodePoint} (h : Sequence t L) : Fresh t := by
  cases h with
  | empty => rintro _ ⟨⟩
  | item first =>
    obtain ⟨c, more, rfl⟩ := List.exists_cons_of_ne_nil first.ne_nil
    exact first.fresh
  | repeated first =>
    obtain ⟨c, more, rfl⟩ := List.exists_cons_of_ne_nil first.ne_nil
    exact first.fresh

theorem Denotes.fresh {t : Text} {L : Language CodePoint} (h : Denotes t L) : Fresh t := by
  cases h with
  | sequence only => exact only.fresh
  | either first =>
    refine first.fresh.append ?_
    rintro _ ⟨⟩
    decide

end StepUp.Pattern
