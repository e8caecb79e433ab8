import StepUp.Role.Selection

/-!
# Which grant a policy selects

The policy of highest rank goes through the grants and keeps the strongest so far. What it keeps is
at one place among the grants that it has seen: none of them is stronger, and those before are
weaker (`RoleGrant.IsFirstStrongest`). Grants that are not stronger than that one leave it at its
place (`IsFirstStrongest.kept`), and the first strongest of grants among which there is a stronger
one takes over (`IsFirstStrongest.overtaken`). So the selected grant is the first strongest of all
(`RoleSelection.select?_highestRank_eq_some_iff`), and grants of one method are selected in their
order (`RoleSelection.select?_eq_head?`).

`RoleSelection.selects_by_policy` says what each policy selects, and what further grants can change
about it.
-/

namespace StepUp

/-- The place of a grant that none outranks and that outranks all before it. -/
structure RoleGrant.IsFirstStrongest (gs : List RoleGrant) (i : Nat) (g : RoleGrant) : Prop where
  place : gs[i]? = some g
  highest : ∀ g' ∈ gs, g'.method.rank ≤ g.method.rank
  first : ∀ j g', j < i → gs[j]? = some g' → g'.method.rank < g.method.rank

namespace RoleGrant.IsFirstStrongest

variable {gs more : List RoleGrant} {g g' : RoleGrant} {i j : Nat}

theorem mem (h : IsFirstStrongest gs i g) : g ∈ gs :=
  List.mem_of_getElem? h.place

theorem lt_length (h : IsFirstStrongest gs i g) : i < gs.length :=
  (List.getElem?_eq_some_iff.mp h.place).1

theorem single (g : RoleGrant) : IsFirstStrongest [g] 0 g where
  place := rfl
  highest _ hg' := Int.le_of_eq (congrArg (·.method.rank) (List.mem_singleton.mp hg'))
  first j _ hj _ := absurd hj (Nat.not_lt_zero j)

theorem not_lt (h : IsFirstStrongest gs i g) (h' : IsFirstStrongest gs j g') : ¬ i < j := by
  intro hij
  have hlt := h'.first i g hij h.place
  have hle := h.highest g' h'.mem
  omega

theorem unique (h : IsFirstStrongest gs i g) (h' : IsFirstStrongest gs j g') : j = i ∧ g' = g := by
  have hij : j = i := Nat.le_antisymm (Nat.not_lt.mp (h.not_lt h')) (Nat.not_lt.mp (h'.not_lt h))
  subst hij
  exact ⟨rfl, Option.some.inj (h'.place.symm.trans h.place)⟩

theorem kept (h : IsFirstStrongest gs i g) (hle : ∀ g' ∈ more, g'.method.rank ≤ g.method.rank) :
    IsFirstStrongest (gs ++ more) i g where
  place := by rw [List.getElem?_append_left h.lt_length, h.place]
  highest g' hg' := (List.mem_append.mp hg').elim (h.highest g') (hle g')
  first j g' hj hg' := by
    rw [List.getElem?_append_left (Nat.lt_trans hj h.lt_length)] at hg'
    exact h.first j g' hj hg'

theorem overtaken (h : IsFirstStrongest gs i g) (h' : IsFirstStrongest more j g')
    (hlt : g.method.rank < g'.method.rank) :
    IsFirstStrongest (gs ++ more) (gs.length + j) g' where
  place := by
    rw [List.getElem?_append_right (Nat.le_add_right ..), Nat.add_sub_cancel_left, h'.place]
  highest x hx := by
    rcases List.mem_append.mp hx with hx | hx
    · exact Int.le_trans (h.highest x hx) (Int.le_of_lt hlt)
    · exact h'.highest x hx
  first k x hk hx := by
    rcases Nat.lt_or_ge k gs.length with hseen | hseen
    · rw [List.getElem?_append_left hseen] at hx
      exact Int.lt_of_le_of_lt (h.highest x (List.mem_of_getElem? hx)) hlt
    · rw [List.getElem?_append_right hseen] at hx
      exact h'.first (k - gs.length) x (by omega) hx

theorem of_append (h : IsFirstStrongest (gs ++ more) i g) (hi : i < gs.length) :
    IsFirstStrongest gs i g where
  place := by
    rw [← List.getElem?_append_left hi, h.place]
  highest g' hg' := h.highest g' (List.mem_append_left more hg')
  first j g' hj hg' := by
    rw [← List.getElem?_append_left (Nat.lt_trans hj hi)] at hg'
    exact h.first j g' hj hg'

/-- More grants leave the first strongest at its place or bring a stronger one. -/
theorem append_cases (h : IsFirstStrongest gs i g) (h' : IsFirstStrongest (gs ++ more) j g') :
    j = i ∧ g' = g ∨ gs.length ≤ j ∧ g' ∈ more ∧ g.method.rank < g'.method.rank := by
  rcases Nat.lt_or_ge j gs.length with hold | hnew
  · exact Or.inl (h.unique (h'.of_append hold))
  · have hplace : (gs ++ more)[i]? = some g := by
      rw [List.getElem?_append_left h.lt_length, h.place]
    have hlt := h'.first i g (Nat.lt_of_lt_of_le h.lt_length hnew) hplace
    have hmem := h'.place
    rw [List.getElem?_append_right hnew] at hmem
    exact Or.inr ⟨hnew, List.mem_of_getElem? hmem, hlt⟩

end RoleGrant.IsFirstStrongest

namespace RoleSelection

open RoleGrant (IsFirstStrongest)

variable {s : RoleSelection} {g : RoleGrant} {gs : List RoleGrant}

/-! ## The strongest grant -/

theorem strongest_cons (best g : RoleGrant) (rest : List RoleGrant) :
    strongest best (g :: rest) =
      strongest (if best.method.rank < g.method.rank then g else best) rest :=
  rfl

/-- The invariant of going through the grants: of those seen, the first strongest is kept. -/
theorem exists_isFirstStrongest_append {seen : List RoleGrant} {i : Nat} {best : RoleGrant}
    (h : IsFirstStrongest seen i best) (rest : List RoleGrant) :
    ∃ j, IsFirstStrongest (seen ++ rest) j (strongest best rest) := by
  induction rest generalizing seen i best with
  | nil =>
    rw [List.append_nil]
    exact ⟨i, h⟩
  | cons g rest ih =>
    rw [strongest_cons, List.append_cons]
    split
    · next hlt => exact ih (h.overtaken (.single g) hlt)
    · next hle =>
      refine ih (h.kept fun g' hg' => ?_)
      rw [List.mem_singleton.mp hg']
      exact Int.not_lt.mp hle

/-! ## Selecting -/

theorem select?_eq_none_iff : s.select? gs = none ↔ gs = [] := by
  cases gs with
  | nil => simp [select?]
  | cons first rest => cases s <;> simp [select?]

theorem exists_select?_of_ne_nil (s : RoleSelection) (h : gs ≠ []) : ∃ g, s.select? gs = some g :=
  Option.ne_none_iff_exists'.mp fun hnone => h (select?_eq_none_iff.mp hnone)

theorem exists_isFirstStrongest (h : select? .highestRank gs = some g) :
    ∃ i, IsFirstStrongest gs i g := by
  cases gs with
  | nil => cases h
  | cons first rest =>
    cases h
    exact exists_isFirstStrongest_append (.single first) rest

theorem select?_highestRank_eq_some_iff :
    select? .highestRank gs = some g ↔ ∃ i, IsFirstStrongest gs i g := by
  constructor
  · exact exists_isFirstStrongest
  · rintro ⟨i, h⟩
    cases hs : select? .highestRank gs with
    | none =>
      rw [select?_eq_none_iff.mp hs] at h
      exact absurd h.mem List.not_mem_nil
    | some g' =>
      obtain ⟨j, h'⟩ := exists_isFirstStrongest hs
      rw [(h.unique h').2]

theorem select?_firstMatch (gs : List RoleGrant) : select? .firstMatch gs = gs.head? := by
  cases gs <;> rfl

theorem mem_of_select? (h : s.select? gs = some g) : g ∈ gs := by
  cases s with
  | firstMatch => exact List.mem_of_head? (select?_firstMatch gs ▸ h)
  | highestRank =>
    obtain ⟨i, hg⟩ := exists_isFirstStrongest h
    exact hg.mem

/-- Of grants of one method every policy selects the first. -/
theorem select?_eq_head? {m : Method} (s : RoleSelection) (h : ∀ g ∈ gs, g.method = m) :
    s.select? gs = gs.head? := by
  cases s with
  | firstMatch => exact select?_firstMatch gs
  | highestRank =>
    cases gs with
    | nil => rfl
    | cons first rest =>
      obtain ⟨hfirst, hrest⟩ := List.forall_mem_cons.mp h
      have hle : ∀ g ∈ rest, g.method.rank ≤ first.method.rank := by
        intro g hg
        exact Int.le_of_eq (congrArg Method.rank ((hrest g hg).trans hfirst.symm))
      exact select?_highestRank_eq_some_iff.mpr ⟨0, (IsFirstStrongest.single first).kept hle⟩

/-- **What each policy selects.** Of one grant or more the policy of highest rank selects the first
strongest: at its place no grant is stronger and all before are weaker. The policy of the first
match selects the one at the head. More grants behind these never change what is selected as the
first match; they change what is selected as the strongest only to one among themselves, and only
to one of greater rank. -/
theorem selects_by_policy (nonempty : gs ≠ []) :
    (∃ i g, select? .highestRank gs = some g ∧ IsFirstStrongest gs i g ∧
      ∀ more, ∃ j g', select? .highestRank (gs ++ more) = some g' ∧
        IsFirstStrongest (gs ++ more) j g' ∧
        (j = i ∧ g' = g ∨ gs.length ≤ j ∧ g' ∈ more ∧ g.method.rank < g'.method.rank)) ∧
    select? .firstMatch gs = some (gs.head nonempty) ∧
    ∀ more, select? .firstMatch (gs ++ more) = select? .firstMatch gs := by
  refine ⟨?_, ?_, fun more => ?_⟩
  · obtain ⟨g, hg⟩ := exists_select?_of_ne_nil .highestRank nonempty
    obtain ⟨i, hi⟩ := exists_isFirstStrongest hg
    refine ⟨i, g, hg, hi, fun more => ?_⟩
    have hmore : gs ++ more ≠ [] := List.append_ne_nil_of_left_ne_nil nonempty more
    obtain ⟨g', hg'⟩ := exists_select?_of_ne_nil .highestRank hmore
    obtain ⟨j, hj⟩ := exists_isFirstStrongest hg'
    exact ⟨j, g', hg', hj, hi.append_cases hj⟩
  · rw [select?_firstMatch, List.head?_eq_some_head nonempty]
  · rw [select?_firstMatch, select?_firstMatch, List.head?_append,
      List.head?_eq_some_head nonempty, Option.some_or]

/-- Two methods share the highest rank: the one granted first is selected, and it takes a greater
rank to change that. -/
theorem selects_by_policy_shared :
    let staff : RoleGrant := ⟨⟨"sms", 1⟩, "staff"⟩
    let admins : RoleGrant := ⟨⟨"webauthn", 2⟩, "admins"⟩
    let ops : RoleGrant := ⟨⟨"otp", 2⟩, "ops"⟩
    [staff, admins, ops] ≠ [] ∧ select? .highestRank [staff, admins, ops] = some admins ∧
      ∀ more, (∀ g ∈ more, g.method.rank ≤ 2) →
        select? .highestRank ([staff, admins, ops] ++ more) = some admins := by
  intro staff admins ops
  have nonempty : [staff, admins, ops] ≠ [] := List.cons_ne_nil _ _
  obtain ⟨⟨i, g, hg, -, hmore⟩, -⟩ := selects_by_policy nonempty
  have hadmins : g = admins := Option.some.inj (hg.symm.trans rfl)
  subst hadmins
  refine ⟨nonempty, hg, fun more hle => ?_⟩
  obtain ⟨j, g', hg', -, ⟨-, rfl⟩ | ⟨-, hmem, hlt⟩⟩ := hmore more
  · exact hg'
  · exact absurd (hle g' hmem) (Int.not_le.mpr hlt)

end RoleSelection

end StepUp
