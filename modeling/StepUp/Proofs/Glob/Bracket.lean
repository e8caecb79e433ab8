import Mathlib.Data.List.Basic
import StepUp.Glob

/-!
# What a bracket expression stands for

The items of a bracket expression are read from left to right: a code point, a hyphen and a code
point are a range, any other code point is itself. A `!` in the first place asks for the
complement. That is the set as it is written (`Glob.plainly`).

The expression is not evaluated that way. It is cut at its range hyphens and the reversed ranges,
which are empty, are taken out before anyone looks for the `!`, so that one which stands right
behind reversed ranges comes first and asks for the complement as well (`Glob.admits`,
`Glob.accepts_bracket`). Nothing else makes a difference (`Glob.admits_eq_plainly`).
-/

namespace StepUp

namespace Glob

/-! ## Items -/

inductive Item where
  | single (c : CodePoint)
  | range (lo hi : CodePoint)
deriving DecidableEq

namespace Item

def reversed : Item → Bool
  | .single _ => false
  | .range lo hi => hi.val < lo.val

def covers : Item → CodePoint → Bool
  | .single c, d => c == d
  | .range lo hi, d => lo.val ≤ d.val && d.val ≤ hi.val

/-- A reversed range is empty. -/
theorem covers_of_reversed {i : Item} (h : i.reversed = true) (d : CodePoint) :
    i.covers d = false := by
  cases i with
  | single c => cases h
  | range lo hi =>
    have hlt : hi.val < lo.val := of_decide_eq_true h
    simp only [covers, Bool.and_eq_false_iff, decide_eq_false_iff_not]
    omega

end Item

/-- The items of a text. -/
def items : Text → List Item
  | [] => []
  | [c] => [.single c]
  | [c, d] => [.single c, .single d]
  | lo :: x :: hi :: rest =>
    if x = '-' then .range lo hi :: items rest else .single lo :: items (x :: hi :: rest)

def covered (is : List Item) (d : CodePoint) : Bool := is.any (·.covers d)

theorem covered_cons (i : Item) (is : List Item) (d : CodePoint) :
    covered (i :: is) d = (i.covers d || covered is d) := List.any_cons

/-- The items that are not empty. -/
def proper (is : List Item) : List Item := is.filter fun i => !i.reversed

theorem covered_proper (is : List Item) (d : CodePoint) : covered (proper is) d = covered is d := by
  have hproper : ∀ i : Item, (!i.reversed && i.covers d) = i.covers d := by
    intro i
    cases h : i.reversed with
    | false => rfl
    | true => rw [i.covers_of_reversed h, Bool.and_false]
  simp only [covered, proper, List.any_filter, hproper]

/-- The set as it is written between the brackets. -/
def plainly (inside : Text) (d : CodePoint) : Bool :=
  if inside.head? = some (CodePoint.ofChar '!') then !covered (items inside.tail) d
  else covered (items inside) d

/-- What is left of items behind a `!` that they begin with. Where that is the lower end of a
range, the hyphen and the upper end are. -/
def behindSign? : List Item → Option (List Item)
  | [] => none
  | .single c :: is => if c = '!' then some is else none
  | .range lo hi :: is => if lo = '!' then some (.single '-' :: .single hi :: is) else none

/-- The set that is asked for between the brackets. -/
def admits (inside : Text) (d : CodePoint) : Bool :=
  if inside.head? = some (CodePoint.ofChar '!') then !covered (items inside.tail) d
  else
    match behindSign? (proper (items inside)) with
    | some is => !covered is d
    | none => covered (items inside) d

/-- The expression does not begin with `!`, but without its reversed ranges it does. -/
def Shifted (inside : Text) : Prop :=
  inside.head? ≠ some (CodePoint.ofChar '!') ∧ behindSign? (proper (items inside)) ≠ none

theorem admits_eq_plainly {inside : Text} (h : ¬ Shifted inside) (d : CodePoint) :
    admits inside d = plainly inside d := by
  unfold admits plainly
  by_cases hsign : inside.head? = some (CodePoint.ofChar '!')
  · rw [if_pos hsign, if_pos hsign]
  · have hnone : behindSign? (proper (items inside)) = none := by
      by_contra hsome
      exact h ⟨hsign, hsome⟩
    rw [if_neg hsign, if_neg hsign, hnone]

/-! ## Parts -/

/-- The parts of items, cut within the ranges, where `p` comes first. -/
def cut (p : Text) : List Item → List Text
  | [] => [p]
  | .single c :: is => cut (p ++ [c]) is
  | .range lo hi :: is => (p ++ [lo]) :: cut [hi] is

theorem exists_cut (is : List Item) : ∃ w rest, ∀ p, cut p is = (p ++ w) :: rest := by
  induction is with
  | nil => exact ⟨[], [], fun p => by rw [cut, List.append_nil]⟩
  | cons i is ih =>
    obtain ⟨w, rest, h⟩ := ih
    cases i with
    | single c => exact ⟨c :: w, rest, fun p => by rw [cut, h, List.append_assoc]; rfl⟩
    | range lo hi => exact ⟨[lo], cut [hi] is, fun p => rfl⟩

theorem splitAtFirst_cons_self (c : CodePoint) (t : Text) :
    Text.splitAtFirst c (c :: t) = some ([], t) := by
  simp [Text.splitAtFirst]

theorem splitAtFirst_cons_of_ne {c x : CodePoint} (h : x ≠ c) (t : Text) :
    Text.splitAtFirst c (x :: t) = (Text.splitAtFirst c t).map fun s => (x :: s.1, s.2) := by
  simp [Text.splitAtFirst, h]

theorem parts_append (u v : Text) : parts u.length (u ++ v) =
    match Text.splitAtFirst '-' v with
    | none => [u ++ v]
    | some (before, after) => (u ++ before) :: parts 2 after := by
  rw [parts, List.drop_left, List.take_left]
  split
  · next h => rw [h]
  · next h => rw [h]

/-- Where a part ends does not depend on a code point that is no hyphen. -/
theorem parts_append_cons {x : CodePoint} (h : x ≠ '-') (u v : Text) :
    parts u.length (u ++ x :: v) = parts (u ++ [x]).length ((u ++ [x]) ++ v) := by
  rw [parts_append, parts_append, splitAtFirst_cons_of_ne h]
  cases Text.splitAtFirst (CodePoint.ofChar '-') v with
  | none => simp
  | some s => simp

theorem exists_parts (skip : Nat) (c : CodePoint) (t : Text) :
    ∃ w ps, parts (skip + 1) (c :: t) = (c :: w) :: ps := by
  rw [parts]
  split
  · exact ⟨_, _, rfl⟩
  · exact ⟨_, _, rfl⟩

theorem keepLastHyphen_cons_cons (p : Text) (c : CodePoint) (w : Text) (ps : List Text) :
    keepLastHyphen (p :: (c :: w) :: ps) = p :: keepLastHyphen ((c :: w) :: ps) := by
  rw [keepLastHyphen]
  rintro ⟨⟩

/-- The parts of a text are those of its items. -/
theorem keepLastHyphen_parts (p t : Text) :
    keepLastHyphen (parts (p.length + 1) (p ++ t)) = cut p (items t) := by
  have hnext (p : Text) (c : CodePoint) (v : Text) :
      parts (p.length + 1) (p ++ c :: v) = parts (p ++ [c]).length ((p ++ [c]) ++ v) := by simp
  induction t using items.induct generalizing p with
  | case1 =>
    rw [parts, List.append_nil, List.drop_eq_nil_of_le (Nat.le_succ _)]
    rfl
  | case2 c =>
    rw [hnext, parts_append]
    simp [Text.splitAtFirst, keepLastHyphen, items, cut]
  | case3 c d =>
    rw [hnext]
    by_cases hd : d = '-'
    · subst hd
      have hlast : parts 2 [] = [[]] := by
        rw [parts]
        rfl
      rw [parts_append, splitAtFirst_cons_self]
      dsimp only
      rw [hlast]
      simp [keepLastHyphen, items, cut]
    · rw [parts_append_cons hd, parts_append]
      simp [Text.splitAtFirst, keepLastHyphen, items, cut]
  | case4 lo hi rest ih =>
    obtain ⟨w, ps, hparts⟩ := exists_parts 1 hi rest
    have hrest := ih [hi]
    rw [List.singleton_append, List.length_singleton, hparts] at hrest
    rw [hnext, parts_append, splitAtFirst_cons_self]
    dsimp only
    rw [List.append_nil, hparts, keepLastHyphen_cons_cons, hrest, items, if_pos rfl, cut]
  | case5 lo x hi rest hx ih =>
    rw [hnext, parts_append_cons hx, ← hnext, ih, items, if_neg hx, cut]

/-! ## Reversed ranges -/

/-- Taking out reversed ranges at the joints leaves the parts of the other items. -/
theorem foldr_joinPart_cut (p : Text) (is : List Item) :
    (cut p is).foldr joinPart [] = cut p (proper is) := by
  induction is generalizing p with
  | nil => rfl
  | cons i is ih =>
    cases i with
    | single c => exact ih (p ++ [c])
    | range lo hi =>
      obtain ⟨w, rest, hcut⟩ := exists_cut (proper is)
      have hlast : (p ++ [lo]).getLast? = some lo := List.getLast?_concat
      rw [cut, List.foldr_cons, ih, hcut, List.singleton_append]
      by_cases h : hi.val < lo.val
      · have hproper : proper (.range lo hi :: is) = proper is := by
          simp [proper, Item.reversed, h]
        rw [hproper, hcut]
        simp [joinPart, h]
      · have hproper : proper (.range lo hi :: is) = .range lo hi :: proper is := by
          simp [proper, Item.reversed, h]
        rw [hproper, cut, hcut]
        simp [joinPart, h]

/-! ## Members -/

theorem contains_append (xs ys : Ranges) (n : Nat) :
    Ranges.contains (xs ++ ys) n = (Ranges.contains xs n || Ranges.contains ys n) := by
  induction xs with
  | nil => rfl
  | cons x xs ih => simp [Ranges.contains, ih, Bool.or_assoc]

theorem contains_single (c d : CodePoint) (rest : Ranges) :
    Ranges.contains (single c :: rest) d.val = (c == d || Ranges.contains rest d.val) := by
  have hsame : (decide (c.val ≤ d.val) && decide (d.val ≤ c.val)) = (c == d) := by
    obtain ⟨n, hn⟩ := c
    obtain ⟨m, hm⟩ := d
    rw [Bool.eq_iff_iff]
    simp only [Bool.and_eq_true, decide_eq_true_eq, beq_iff_eq, CodePoint.mk.injEq]
    omega
  rw [single, Ranges.contains, hsame]

theorem contains_map_single (p : Text) (d : CodePoint) :
    Ranges.contains (p.map single) d.val = covered (p.map .single) d := by
  induction p with
  | nil => rfl
  | cons c p ih =>
    rw [List.map_cons, contains_single, ih]
    rfl

/-- Members of the parts are the members of the items. -/
theorem contains_members_cut (p : Text) (is : List Item) (h : ∀ i ∈ is, i.reversed = false)
    (d : CodePoint) :
    (members (cut p is)).contains d.val = (covered (p.map .single) d || covered is d) := by
  induction is generalizing p with
  | nil => rw [cut, members, contains_map_single, covered, covered, List.any_nil, Bool.or_false]
  | cons i is ih =>
    obtain ⟨hi', his⟩ := List.forall_mem_cons.mp h
    cases i with
    | single c =>
      rw [cut, ih _ his]
      simp [covered, Item.covers, Bool.or_assoc]
    | range lo hi =>
      have hle : lo.val ≤ hi.val := by simpa [Item.reversed] using hi'
      obtain ⟨w, rest, hcut⟩ := exists_cut is
      have hrest := ih [hi] his
      rw [hcut] at hrest
      have hmembers : members (cut p (.range lo hi :: is)) =
          p.map single ++ (lo.val, hi.val) :: members (([hi] ++ w) :: rest) := by
        rw [cut, hcut]
        simp [members]
      have hhi : ((Item.range lo hi).covers d || (Item.single hi).covers d) =
          (Item.range lo hi).covers d := by
        simp only [Item.covers]
        by_cases hd : hi = d
        · subst hd
          simp [hle]
        · simp [hd]
      rw [hmembers, contains_append, contains_map_single, Ranges.contains, hrest, covered_cons,
        ← hhi, Bool.or_assoc, List.map_singleton, covered_cons, Bool.or_assoc]
      rfl

/-! ## The expression -/

theorem reversed_of_mem_proper {is : List Item} : ∀ i ∈ proper is, i.reversed = false := by
  intro i hi
  simpa using (List.mem_filter.mp hi).2

/-- A set is left as it stands. -/
theorem contains_members (is : List Item) (d : CodePoint) :
    (members (cut [] (proper is))).contains d.val = covered is d := by
  rw [contains_members_cut [] _ reversed_of_mem_proper, covered_proper]
  rfl

/-- The parts of a bracket expression after all reversed ranges have been taken out. -/
def joined (inside : Text) : List Text :=
  (keepLastHyphen (parts (if inside.head? = some (CodePoint.ofChar '!') then 2 else 1)
    inside)).foldr joinPart []

theorem joined_of_sign (t : Text) : joined ('!' :: t) = cut ['!'] (proper (items t)) := by
  rw [joined, List.head?_cons, if_pos rfl, ← foldr_joinPart_cut]
  exact congrArg _ (keepLastHyphen_parts ['!'] t)

theorem joined_of_no_sign {inside : Text} (h : inside.head? ≠ some (CodePoint.ofChar '!')) :
    joined inside = cut [] (proper (items inside)) := by
  rw [joined, if_neg h, ← foldr_joinPart_cut]
  exact congrArg _ (keepLastHyphen_parts [] inside)

theorem bracket_of_sign {inside p : Text} {rest : List Text}
    (h : joined inside = (CodePoint.ofChar '!' :: p) :: rest) :
    bracket inside = .oneOf true (members (p :: rest)) := by
  unfold joined at h
  unfold bracket
  dsimp only
  rw [h]
  exact if_pos rfl

theorem bracket_of_no_sign {inside : Text}
    (h : ∀ p rest, joined inside ≠ (CodePoint.ofChar '!' :: p) :: rest) :
    bracket inside = .oneOf false (members (joined inside)) := by
  unfold joined at h ⊢
  unfold bracket
  dsimp only
  split
  · next c p rest hjoined =>
    rw [hjoined, if_neg]
    rintro rfl
    exact h p rest hjoined
  · rfl

theorem cut_ne_of_behindSign? {is : List Item} (h : behindSign? is = none) (p : Text)
    (rest : List Text) : cut [] is ≠ (CodePoint.ofChar '!' :: p) :: rest := by
  intro hcut
  cases is with
  | nil => cases hcut
  | cons i is =>
    cases i with
    | single c =>
      obtain ⟨w, ps, hps⟩ := exists_cut is
      rw [cut, hps] at hcut
      cases hcut
      simp [behindSign?] at h
    | range lo hi =>
      cases hcut
      simp [behindSign?] at h

theorem cut_of_behindSign? {is left : List Item} (h : behindSign? is = some left)
    (hproper : ∀ i ∈ is, i.reversed = false) (d : CodePoint) :
    ∃ p rest, cut [] is = (CodePoint.ofChar '!' :: p) :: rest ∧
      (members (p :: rest)).contains d.val = covered left d := by
  cases is with
  | nil => cases h
  | cons i is =>
    obtain ⟨-, his⟩ := List.forall_mem_cons.mp hproper
    obtain ⟨w, ps, hps⟩ := exists_cut is
    cases i with
    | single c =>
      obtain ⟨rfl, rfl⟩ : c = CodePoint.ofChar '!' ∧ is = left := by
        simpa [behindSign?] using h
      refine ⟨w, ps, by rw [cut, hps]; rfl, ?_⟩
      have hmembers := contains_members_cut [] is his d
      rwa [hps] at hmembers
    | range lo hi =>
      obtain ⟨rfl, rfl⟩ : lo = CodePoint.ofChar '!' ∧ .single '-' :: .single hi :: is = left := by
        simpa [behindSign?] using h
      refine ⟨[], cut [hi] is, rfl, ?_⟩
      have hmembers := contains_members_cut [hi] is his d
      have hhyphen : members ([] :: cut [hi] is) = single '-' :: members (cut [hi] is) := by
        rw [hps, members]
        rintro _ _ _ ⟨⟩
      rw [hhyphen, contains_single, hmembers, covered_cons, covered_cons]
      simp [covered, Item.covers]

/-- A bracket expression describes what it asks for. -/
theorem accepts_bracket (inside : Text) (d : CodePoint) :
    (bracket inside).accepts d = admits inside d := by
  unfold admits
  by_cases hsign : inside.head? = some (CodePoint.ofChar '!')
  · obtain ⟨t, rfl⟩ := List.head?_eq_some_iff.mp hsign
    obtain ⟨w, rest, hcut⟩ := exists_cut (proper (items t))
    have hmembers := contains_members (items t) d
    rw [hcut, List.nil_append] at hmembers
    have hjoined := joined_of_sign t
    rw [hcut, List.singleton_append] at hjoined
    rw [bracket_of_sign hjoined, if_pos hsign, GlobToken.accepts, hmembers, List.tail_cons,
      Bool.bne_true]
  · have hjoined := joined_of_no_sign hsign
    rw [if_neg hsign]
    cases hbehind : behindSign? (proper (items inside)) with
    | none =>
      have hplain := cut_ne_of_behindSign? hbehind
      rw [← hjoined] at hplain
      rw [bracket_of_no_sign hplain, GlobToken.accepts, hjoined, contains_members, Bool.bne_false]
    | some left =>
      obtain ⟨p, rest, hcut, hmembers⟩ := cut_of_behindSign? hbehind reversed_of_mem_proper d
      rw [bracket_of_sign (hjoined.trans hcut), GlobToken.accepts, hmembers, Bool.bne_true]

end Glob

end StepUp
