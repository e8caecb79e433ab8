import Mathlib.Data.List.Basic
import StepUp.Proofs.Glob.Bracket

/-!
# The language of a glob

`Glob.Matches` says which texts a glob stands for, without saying how to find out: where a star
stands, the text may be split anywhere. The table of `Glob.describes` answers just that
(`Glob.describes_parse`). It does so in two steps: a glob that has been read stands for the same
texts as the one that is written (`Glob.denotes_parse`), and each row of the table is right if the
row behind it is (`Glob.describes_iff_denotes`).

Several stars in a row mean the same as one (`Glob.denotes_squeeze`). The set of a bracket
expression is the one that is asked for. Where that is the one that is written between all
brackets, globs can be taken as they are written (`Glob.matches_plainly_iff`).
-/

namespace StepUp

namespace Glob

/-! ## What a glob stands for -/

/-- What stands between brackets: a `!`, if the complement is asked for, then any code point, and
no `]` behind it. -/
inductive Inside : Text → Prop where
  | plain {first : CodePoint} {more : Text} (sign : first ≠ '!')
      (closed : CodePoint.ofChar ']' ∉ more) : Inside (first :: more)
  | complement {first : CodePoint} {more : Text} (closed : CodePoint.ofChar ']' ∉ more) :
      Inside ('!' :: first :: more)

/-- The text behind an opening bracket begins with what stands between brackets and the closing
one. -/
def Closes (inside p rest : Text) : Prop :=
  Inside inside ∧ p = inside ++ CodePoint.ofChar ']' :: rest

/-- The glob stands for the text, where `set` says which code points are in the set that is
written between brackets. -/
inductive Matches (set : Text → CodePoint → Bool) : Text → Text → Prop where
  | done : Matches set [] []
  /-- A star stands for any text. -/
  | star {p u v : Text} (rest : Matches set p v) :
      Matches set (CodePoint.ofChar '*' :: p) (u ++ v)
  | anyOne {p v : Text} {c : CodePoint} (rest : Matches set p v) :
      Matches set (CodePoint.ofChar '?' :: p) (c :: v)
  | bracket {inside p q v : Text} {c : CodePoint} (closed : Closes inside p q)
      (member : set inside c = true) (rest : Matches set q v) :
      Matches set (CodePoint.ofChar '[' :: p) (c :: v)
  /-- A bracket that is not closed stands for itself. -/
  | unclosed {p v : Text} (unclosed : ∀ inside q, ¬ Closes inside p q) (rest : Matches set p v) :
      Matches set (CodePoint.ofChar '[' :: p) (CodePoint.ofChar '[' :: v)
  | literal {c : CodePoint} {p v : Text} (noStar : c ≠ '*') (noAny : c ≠ '?') (noBracket : c ≠ '[')
      (rest : Matches set p v) : Matches set (c :: p) (c :: v)

section Inversion

variable {set : Text → CodePoint → Bool} {c : CodePoint} {p t : Text}

theorem matches_nil_iff : Matches set [] t ↔ t = [] := by
  constructor
  · intro h
    cases h
    rfl
  · rintro rfl
    exact .done

theorem matches_star_iff :
    Matches set (CodePoint.ofChar '*' :: p) t ↔ ∃ u v, t = u ++ v ∧ Matches set p v := by
  constructor
  · intro h
    cases h with
    | star rest => exact ⟨_, _, rfl, rest⟩
    | literal noStar => exact absurd rfl noStar
  · rintro ⟨u, v, rfl, h⟩
    exact .star h

theorem matches_anyOne_iff :
    Matches set (CodePoint.ofChar '?' :: p) t ↔ ∃ c v, t = c :: v ∧ Matches set p v := by
  constructor
  · intro h
    cases h with
    | anyOne rest => exact ⟨_, _, rfl, rest⟩
    | literal _ noAny => exact absurd rfl noAny
  · rintro ⟨c, v, rfl, h⟩
    exact .anyOne h

theorem matches_literal_iff (noStar : c ≠ '*') (noAny : c ≠ '?') (noBracket : c ≠ '[') :
    Matches set (c :: p) t ↔ ∃ v, t = c :: v ∧ Matches set p v := by
  constructor
  · intro h
    cases h with
    | star => exact absurd rfl noStar
    | anyOne => exact absurd rfl noAny
    | bracket => exact absurd rfl noBracket
    | unclosed => exact absurd rfl noBracket
    | literal _ _ _ rest => exact ⟨_, rfl, rest⟩
  · rintro ⟨v, rfl, h⟩
    exact .literal noStar noAny noBracket h

theorem matches_unclosed_iff (hunclosed : ∀ inside q, ¬ Closes inside p q) :
    Matches set (CodePoint.ofChar '[' :: p) t ↔
      ∃ v, t = CodePoint.ofChar '[' :: v ∧ Matches set p v := by
  constructor
  · intro h
    cases h with
    | bracket closed => exact absurd closed (hunclosed _ _)
    | unclosed _ rest => exact ⟨_, rfl, rest⟩
    | literal _ _ noBracket => exact absurd rfl noBracket
  · rintro ⟨v, rfl, h⟩
    exact .unclosed hunclosed h

end Inversion

/-- The set between brackets matters only where there are brackets in the glob. -/
theorem Matches.congr {set set' : Text → CodePoint → Bool} {p t : Text}
    (hset : ∀ q inside rest, CodePoint.ofChar '[' :: q <:+ p → Closes inside q rest →
      ∀ c, set inside c = set' inside c) (h : Matches set p t) : Matches set' p t := by
  induction h with
  | done => exact .done
  | star _ ih =>
    exact .star (ih fun q inside rest hq => hset q inside rest (hq.trans (List.suffix_cons _ _)))
  | anyOne _ ih =>
    exact .anyOne (ih fun q inside rest hq => hset q inside rest (hq.trans (List.suffix_cons _ _)))
  | @bracket inside p q v c closed member _ ih =>
    have hq : q <:+ CodePoint.ofChar '[' :: p := by
      refine ⟨CodePoint.ofChar '[' :: inside ++ [CodePoint.ofChar ']'], ?_⟩
      rw [closed.2]
      simp
    rw [hset p inside q (List.suffix_refl _) closed] at member
    exact .bracket closed member (ih fun q' inside' rest' hq' =>
      hset q' inside' rest' (hq'.trans hq))
  | unclosed hunclosed _ ih =>
    exact .unclosed hunclosed
      (ih fun q inside rest hq => hset q inside rest (hq.trans (List.suffix_cons _ _)))
  | literal noStar noAny noBracket _ ih =>
    exact .literal noStar noAny noBracket
      (ih fun q inside rest hq => hset q inside rest (hq.trans (List.suffix_cons _ _)))

/-- Nothing that stands between brackets in the glob has its `!` behind reversed ranges. -/
def Unshifted (p : Text) : Prop :=
  ∀ q inside rest, CodePoint.ofChar '[' :: q <:+ p → Closes inside q rest → ¬ Shifted inside

theorem matches_plainly_iff {p t : Text} (h : Unshifted p) :
    Matches admits p t ↔ Matches plainly p t := by
  have hset : ∀ q inside rest, CodePoint.ofChar '[' :: q <:+ p → Closes inside q rest →
      ∀ c, admits inside c = plainly inside c :=
    fun q inside rest hq hclosed => admits_eq_plainly (h q inside rest hq hclosed)
  constructor
  · exact .congr hset
  · exact .congr fun q inside rest hq hclosed c => (hset q inside rest hq hclosed c).symm

/-! ## Where a bracket expression ends -/

theorem splitAtFirst_eq_some_iff {c : CodePoint} {t u v : Text} :
    t.splitAtFirst c = some (u, v) ↔ c ∉ u ∧ t = u ++ c :: v := by
  induction t generalizing u with
  | nil => simp [Text.splitAtFirst]
  | cons x t ih =>
    by_cases hx : x = c
    · subst hx
      rw [splitAtFirst_cons_self]
      cases u with
      | nil => simp [eq_comm]
      | cons y u =>
        refine ⟨(by rintro ⟨⟩), ?_⟩
        rintro ⟨hmem, ht⟩
        exact absurd (List.cons.inj ht).1 fun hy => hmem (hy ▸ List.mem_cons_self)
    · rw [splitAtFirst_cons_of_ne hx, Option.map_eq_some_iff]
      cases u with
      | nil => simp [hx]
      | cons y u =>
        constructor
        · rintro ⟨⟨u', v'⟩, hsplit, heq⟩
          cases heq
          obtain ⟨hmem, rfl⟩ := ih.mp hsplit
          exact ⟨by simp [hmem, Ne.symm hx], rfl⟩
        · rintro ⟨hmem, ht⟩
          cases ht
          exact ⟨(u, v), ih.mpr ⟨fun h => hmem (List.mem_cons_of_mem _ h), rfl⟩, rfl⟩

theorem inside?_plain {x : CodePoint} (hx : x ≠ '!') (t : Text) :
    inside? (x :: t) = (t.splitAtFirst ']').map fun s => x :: s.1 := by
  have hsign : ¬ (x :: t).head? = some (CodePoint.ofChar '!') := by simpa using hx
  unfold inside?
  simp only [if_neg hsign, List.drop_zero, Nat.zero_add]
  by_cases hclose : x = ']'
  · subst hclose
    simp only [List.head?_cons, if_true, List.drop_succ_cons, List.drop_zero]
    cases Text.splitAtFirst (CodePoint.ofChar ']') t <;> rfl
  · have hhead : ¬ (x :: t).head? = some (CodePoint.ofChar ']') := by simpa using hclose
    simp only [if_neg hhead, List.drop_zero, splitAtFirst_cons_of_ne hclose]
    cases Text.splitAtFirst (CodePoint.ofChar ']') t <;> rfl

theorem inside?_sign (x : CodePoint) (t : Text) :
    inside? ('!' :: x :: t) =
      (t.splitAtFirst ']').map fun s => CodePoint.ofChar '!' :: x :: s.1 := by
  unfold inside?
  simp only [List.head?_cons, if_true, List.drop_succ_cons, List.drop_zero]
  by_cases hclose : x = ']'
  · subst hclose
    simp only [if_true, List.drop_succ_cons, List.drop_zero]
    cases Text.splitAtFirst (CodePoint.ofChar ']') t <;> rfl
  · have hhead : ¬ (some x = some (CodePoint.ofChar ']')) := by simpa using hclose
    simp only [if_neg hhead, List.drop_succ_cons, List.drop_zero, splitAtFirst_cons_of_ne hclose]
    cases Text.splitAtFirst (CodePoint.ofChar ']') t <;> rfl

theorem Closes.two_le {p inside rest : Text} (h : Closes inside p rest) : 2 ≤ p.length := by
  obtain ⟨hinside, rfl⟩ := h
  have hne : 1 ≤ inside.length := by
    cases hinside with
    | plain => simp
    | complement => simp
  simp only [List.length_append, List.length_cons]
  omega

/-- The search for the closing bracket finds what stands between brackets. -/
theorem inside?_eq_some_iff {p inside : Text} :
    inside? p = some inside ↔ ∃ rest, Closes inside p rest := by
  have hshort {t : Text} (ht : t.length < 2) (hnone : inside? t = none) :
      inside? t = some inside ↔ ∃ rest, Closes inside t rest := by
    rw [hnone]
    constructor
    · rintro ⟨⟩
    · rintro ⟨rest, h⟩
      have hlength := h.two_le
      omega
  match p with
  | [] => exact hshort (by decide) (by decide)
  | x :: t =>
    by_cases hx : x = '!'
    · subst hx
      cases t with
      | nil => exact hshort (by decide) (by decide)
      | cons y t =>
        rw [inside?_sign, Option.map_eq_some_iff]
        constructor
        · rintro ⟨⟨u, v⟩, hsplit, rfl⟩
          obtain ⟨hmem, rfl⟩ := splitAtFirst_eq_some_iff.mp hsplit
          exact ⟨v, .complement hmem, rfl⟩
        · rintro ⟨rest, hinside, hp⟩
          cases hinside with
          | plain sign closed => exact absurd (List.cons.inj hp).1.symm sign
          | complement closed =>
            cases hp
            exact ⟨_, splitAtFirst_eq_some_iff.mpr ⟨closed, rfl⟩, rfl⟩
    · rw [inside?_plain hx, Option.map_eq_some_iff]
      constructor
      · rintro ⟨⟨u, v⟩, hsplit, rfl⟩
        obtain ⟨hmem, rfl⟩ := splitAtFirst_eq_some_iff.mp hsplit
        exact ⟨v, .plain hx hmem, rfl⟩
      · rintro ⟨rest, hinside, hp⟩
        cases hinside with
        | plain sign closed =>
          cases hp
          exact ⟨_, splitAtFirst_eq_some_iff.mpr ⟨closed, rfl⟩, rfl⟩
        | complement closed =>
          cases hp
          exact absurd rfl hx

/-- A bracket expression ends in one place only. -/
theorem Closes.unique {p inside inside' rest rest' : Text} (h : Closes inside p rest)
    (h' : Closes inside' p rest') : inside' = inside ∧ rest' = rest := by
  have hsame : inside' = inside := by
    have hfirst := inside?_eq_some_iff.mpr ⟨rest, h⟩
    have hsecond := inside?_eq_some_iff.mpr ⟨rest', h'⟩
    exact Option.some_inj.mp (hsecond.symm.trans hfirst)
  subst hsame
  have htail := List.append_cancel_left (h'.2.symm.trans h.2)
  exact ⟨rfl, (List.cons.inj htail).2⟩

theorem matches_bracket_iff {set : Text → CodePoint → Bool} {inside p q t : Text}
    (hclosed : Closes inside p q) :
    Matches set (CodePoint.ofChar '[' :: p) t ↔
      ∃ c v, t = c :: v ∧ set inside c = true ∧ Matches set q v := by
  constructor
  · intro h
    cases h with
    | bracket closed member rest =>
      obtain ⟨rfl, rfl⟩ := hclosed.unique closed
      exact ⟨_, _, rfl, member, rest⟩
    | unclosed hunclosed => exact absurd hclosed (hunclosed _ _)
    | literal _ _ noBracket => exact absurd rfl noBracket
  · rintro ⟨c, v, rfl, hmember, h⟩
    exact .bracket hclosed hmember h

/-! ## Reading a glob -/

/-- The texts that a glob stands for once it has been read. -/
def Denotes : Glob → Text → Prop
  | [], t => t = []
  | .star :: g, t => ∃ u v, t = u ++ v ∧ Denotes g v
  | token :: g, t => ∃ c v, t = c :: v ∧ token.accepts c = true ∧ Denotes g v

theorem denotes_cons_iff {token : GlobToken} (h : token ≠ .star) {g : Glob} {t : Text} :
    Denotes (token :: g) t ↔ ∃ c v, t = c :: v ∧ token.accepts c = true ∧ Denotes g v := by
  cases token with
  | star => exact absurd rfl h
  | _ => rfl

theorem bracket_ne_star (inside : Text) : bracket inside ≠ .star := by
  unfold bracket
  dsimp only
  split
  · split <;> rintro ⟨⟩
  · rintro ⟨⟩

theorem parse_star (p : Text) : parse ('*' :: p) = .star :: parse p := by
  rw [parse, if_pos rfl]

theorem parse_anyOne (p : Text) : parse ('?' :: p) = .anyOne :: parse p := by
  rw [parse, if_neg (by decide), if_pos rfl]

theorem parse_bracket {inside p rest : Text} (h : Closes inside p rest) :
    parse ('[' :: p) = bracket inside :: parse rest := by
  have hdrop : p.drop (inside.length + 1) = rest := by
    rw [h.2, ← List.drop_drop, List.drop_left]
    rfl
  rw [parse, if_neg (by decide), if_neg (by decide), if_pos rfl,
    inside?_eq_some_iff.mpr ⟨rest, h⟩]
  dsimp only
  rw [hdrop]

theorem parse_unclosed {p : Text} (h : ∀ inside rest, ¬ Closes inside p rest) :
    parse ('[' :: p) = .literal '[' :: parse p := by
  have hnone : inside? p = none := by
    rw [Option.eq_none_iff_forall_ne_some]
    intro inside hinside
    obtain ⟨rest, hclosed⟩ := inside?_eq_some_iff.mp hinside
    exact h inside rest hclosed
  rw [parse, if_neg (by decide), if_neg (by decide), if_pos rfl, hnone]

theorem parse_literal {c : CodePoint} (noStar : c ≠ '*') (noAny : c ≠ '?') (noBracket : c ≠ '[')
    (p : Text) : parse (c :: p) = .literal c :: parse p := by
  rw [parse, if_neg noStar, if_neg noAny, if_neg noBracket]

theorem denotes_literal_iff {c : CodePoint} {g : Glob} {t : Text} :
    Denotes (.literal c :: g) t ↔ ∃ v, t = c :: v ∧ Denotes g v := by
  have hne : GlobToken.literal c ≠ .star := by rintro ⟨⟩
  rw [denotes_cons_iff hne]
  constructor
  · rintro ⟨d, v, rfl, hc, h⟩
    cases (beq_iff_eq.mp hc : c = d)
    exact ⟨v, rfl, h⟩
  · rintro ⟨v, rfl, h⟩
    exact ⟨c, v, rfl, beq_self_eq_true c, h⟩

/-- A glob that has been read stands for the texts that the written one stands for. -/
theorem denotes_parse (p t : Text) : Denotes (parse p) t ↔ Matches admits p t := by
  induction p using parse.induct generalizing t with
  | case1 => rw [parse, matches_nil_iff, Denotes]
  | case2 rest ih =>
    rw [parse_star, matches_star_iff]
    simp only [Denotes, ih]
  | case3 rest _ ih =>
    have hne : GlobToken.anyOne ≠ .star := by rintro ⟨⟩
    rw [parse_anyOne, matches_anyOne_iff, denotes_cons_iff hne]
    simp only [ih, GlobToken.accepts, true_and]
  | case4 p inside hinside _ _ ih =>
    obtain ⟨rest, hclosed⟩ := inside?_eq_some_iff.mp hinside
    have hne := bracket_ne_star inside
    have hdrop : p.drop (inside.length + 1) = rest := by
      rw [hclosed.2, ← List.drop_drop, List.drop_left]
      rfl
    rw [hdrop] at ih
    rw [parse_bracket hclosed, matches_bracket_iff hclosed, denotes_cons_iff hne]
    simp only [ih, accepts_bracket]
  | case5 p hnone _ _ ih =>
    have hunclosed : ∀ inside rest, ¬ Closes inside p rest := by
      intro inside rest hclosed
      cases hnone.symm.trans (inside?_eq_some_iff.mpr ⟨rest, hclosed⟩)
    rw [parse_unclosed hunclosed, matches_unclosed_iff hunclosed, denotes_literal_iff]
    simp only [ih]
  | case6 c p noStar noAny noBracket ih =>
    rw [parse_literal noStar noAny noBracket, matches_literal_iff noStar noAny noBracket,
      denotes_literal_iff]
    simp only [ih]

/-! ## The table -/

section Table

variable {g : Glob} {t : Text} {c : CodePoint} {token : GlobToken}

theorem row_of_ne_star (h : token ≠ .star) (g : Glob) (t : Text) :
    row t (token :: g) = oneRow token t (row t g) := by
  cases token with
  | star => exact absurd rfl h
  | _ => rfl

theorem exists_row (g : Glob) (t : Text) : ∃ b bs, row t g = b :: bs := by
  apply List.exists_cons_of_ne_nil
  induction g with
  | nil => simp [row, emptyRow]
  | cons token g ih =>
    by_cases h : token = .star
    · obtain ⟨b, bs, hrow⟩ := List.exists_cons_of_ne_nil ih
      rw [h, row, hrow]
      exact List.cons_ne_nil _ _
    · rw [row_of_ne_star h, oneRow]
      simp

/-- The row of a text is the answer for the text in front of the row of its rest. -/
theorem row_cons (g : Glob) (c : CodePoint) (t : Text) :
    row (c :: t) g = describes g (c :: t) :: row t g := by
  have htail : ∃ b, row (c :: t) g = b :: row t g := by
    induction g with
    | nil => exact ⟨_, rfl⟩
    | cons token g ih =>
      obtain ⟨b, hrow⟩ := ih
      by_cases h : token = .star
      · exact ⟨_, by rw [h, row, hrow, starRow]; rfl⟩
      · obtain ⟨b', bs, hrest⟩ := exists_row g t
        rw [row_of_ne_star h, row_of_ne_star h, hrow, hrest]
        exact ⟨_, rfl⟩
  obtain ⟨b, hrow⟩ := htail
  rw [describes, hrow]
  rfl

theorem row_nil (g : Glob) : row [] g = [describes g []] := by
  have hrow : ∃ b, row [] g = [b] := by
    induction g with
    | nil => exact ⟨true, rfl⟩
    | cons token g ih =>
      obtain ⟨b, hrow⟩ := ih
      by_cases h : token = .star
      · exact ⟨_, by rw [h, row, hrow]; rfl⟩
      · exact ⟨false, by rw [row_of_ne_star h]; rfl⟩
  obtain ⟨b, hrow⟩ := hrow
  rw [describes, hrow]
  rfl

theorem describes_star_nil (g : Glob) : describes (.star :: g) [] = describes g [] := by
  rw [describes, row, row_nil, starRow]
  exact Bool.or_false _

/-- A star stands for nothing, or for one code point and what a star stands for. -/
theorem describes_star_cons (g : Glob) (c : CodePoint) (t : Text) :
    describes (.star :: g) (c :: t) = (describes g (c :: t) || describes (.star :: g) t) := by
  rw [describes, row, row_cons, starRow]
  rfl

theorem describes_one_nil (h : token ≠ .star) (g : Glob) :
    describes (token :: g) [] = false := by
  rw [describes, row_of_ne_star h, oneRow]
  rfl

theorem describes_one_cons (h : token ≠ .star) (g : Glob) (c : CodePoint) (t : Text) :
    describes (token :: g) (c :: t) = (token.accepts c && describes g t) := by
  obtain ⟨b, bs, hrow⟩ := exists_row g t
  have hhead : describes g t = b := by rw [describes, hrow]; rfl
  rw [describes, row_of_ne_star h, oneRow, row_cons, hrow, hhead]
  rfl

theorem exists_split_nil_iff {P : Text → Prop} : (∃ u v, [] = u ++ v ∧ P v) ↔ P [] := by
  constructor
  · rintro ⟨u, v, heq, h⟩
    rwa [(List.append_eq_nil_iff.mp heq.symm).2] at h
  · intro h
    exact ⟨[], [], rfl, h⟩

/-- A text is split at its front or within its rest. -/
theorem exists_split_cons_iff {P : Text → Prop} :
    (∃ u v, c :: t = u ++ v ∧ P v) ↔ P (c :: t) ∨ ∃ u v, t = u ++ v ∧ P v := by
  constructor
  · rintro ⟨u, v, heq, h⟩
    cases u with
    | nil => exact Or.inl (heq ▸ h)
    | cons d u =>
      cases heq
      exact Or.inr ⟨u, v, rfl, h⟩
  · rintro (h | ⟨u, v, rfl, h⟩)
    · exact ⟨[], c :: t, rfl, h⟩
    · exact ⟨c :: u, v, rfl, h⟩

/-- The table is right. -/
theorem describes_iff_denotes : describes g t = true ↔ Denotes g t := by
  induction g generalizing t with
  | nil => cases t <;> simp [describes, row, emptyRow, Denotes]
  | cons token g ih =>
    by_cases h : token = .star
    · subst h
      induction t with
      | nil => rw [describes_star_nil, ih, Denotes, exists_split_nil_iff]
      | cons c t hrest =>
        rw [describes_star_cons, Bool.or_eq_true, ih, hrest, Denotes, Denotes,
          exists_split_cons_iff]
    · rw [denotes_cons_iff h]
      cases t with
      | nil => simp [describes_one_nil h]
      | cons c t =>
        rw [describes_one_cons h, Bool.and_eq_true, ih]
        constructor
        · rintro ⟨hc, hrest⟩
          exact ⟨c, t, rfl, hc, hrest⟩
        · rintro ⟨d, v, heq, hd, hrest⟩
          cases heq
          exact ⟨hd, hrest⟩

/-- A glob describes the texts that it stands for. -/
theorem describes_parse (p t : Text) : (parse p).describes t = true ↔ Matches admits p t :=
  describes_iff_denotes.trans (denotes_parse p t)

end Table

/-! ## Runs of stars -/

/-- Each run of stars replaced by one star. -/
def squeeze : Glob → Glob
  | [] => []
  | [token] => [token]
  | .star :: .star :: g => squeeze (.star :: g)
  | token :: token' :: g => token :: squeeze (token' :: g)

theorem denotes_star_star_iff {g : Glob} {t : Text} :
    Denotes (.star :: .star :: g) t ↔ Denotes (.star :: g) t := by
  constructor
  · rintro ⟨u, _, rfl, v, w, rfl, h⟩
    exact ⟨u ++ v, w, (List.append_assoc u v w).symm, h⟩
  · intro h
    exact ⟨[], t, rfl, h⟩

theorem denotes_congr {g g' : Glob} (h : ∀ t, Denotes g t ↔ Denotes g' t) (token : GlobToken)
    (t : Text) : Denotes (token :: g) t ↔ Denotes (token :: g') t := by
  by_cases hstar : token = .star
  · subst hstar
    simp only [Denotes, h]
  · simp only [denotes_cons_iff hstar, h]

theorem denotes_squeeze (g : Glob) (t : Text) : Denotes (squeeze g) t ↔ Denotes g t := by
  induction g using squeeze.induct generalizing t with
  | case1 => rfl
  | case2 token => rfl
  | case3 g ih => rw [squeeze, ih, denotes_star_star_iff]
  | case4 token token' g h ih =>
    rw [squeeze]
    · exact denotes_congr ih token t
    · exact h

end Glob

end StepUp
