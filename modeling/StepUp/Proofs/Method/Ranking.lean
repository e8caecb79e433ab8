import Mathlib.Data.List.Nodup
import Mathlib.Data.List.Sort
import StepUp.Proofs.Method.Registry

/-!
# Ranking by strength

A ranking of methods holds them from the weakest to the strongest, those of one rank in the order of
their registration (`Method.IsRanking`). There is but one (`Method.IsRanking.unique`), as the
methods of each rank stand together in it and their order is given; the registry ranks its methods
so (`Registry.ranked_eq_iff`).

The last of a ranking is at one place among the methods as they were registered: none is stronger,
and those registered later are weaker (`Registry.strongest?_eq_some_iff`).
-/

namespace StepUp

/-! ## Rankings -/

/-- The same methods, none behind a stronger one, and those of one rank in the order that they
had. -/
structure Method.IsRanking (methods ranking : List Method) : Prop where
  perm : ranking.Perm methods
  ordered : ranking.Pairwise fun m n => m.rank ≤ n.rank
  stable : ∀ k, ranking.filter (fun m => m.rank = k) = methods.filter fun m => m.rank = k

/-- The place of a method that none outranks and that outranks all behind it. -/
structure Method.IsLastStrongest (methods : List Method) (i : Nat) (m : Method) : Prop where
  place : methods[i]? = some m
  highest : ∀ n ∈ methods, n.isStrongerThan m = false
  last : ∀ j n, i < j → methods[j]? = some n → n.rank < m.rank

namespace Method

variable {ms l l' : List Method} {m n : Method} {i j : Nat}

theorem isStrongerThan_eq_false_iff : n.isStrongerThan m = false ↔ n.rank ≤ m.rank := by
  simp [isStrongerThan]

theorem rank_head_le (h : (m :: l).Pairwise fun m n => m.rank ≤ n.rank) (hn : n ∈ m :: l) :
    m.rank ≤ n.rank := by
  rcases List.mem_cons.mp hn with rfl | hmem
  · exact Int.le_refl _
  · exact (List.pairwise_cons.mp h).1 n hmem

theorem mem_of_filter_rank_eq
    (h : ∀ k, l.filter (fun m => m.rank = k) = l'.filter fun m => m.rank = k) (hm : m ∈ l) :
    m ∈ l' := by
  have hmem : m ∈ l.filter fun n => n.rank = m.rank := by simpa using hm
  rw [h] at hmem
  exact List.mem_of_mem_filter hmem

/-- In a list by rank the methods of each rank stand together, so that their orders make up the
whole order. -/
theorem eq_of_filter_rank_eq (hl : l.Pairwise fun m n => m.rank ≤ n.rank)
    (hl' : l'.Pairwise fun m n => m.rank ≤ n.rank)
    (h : ∀ k, l.filter (fun m => m.rank = k) = l'.filter fun m => m.rank = k) : l = l' := by
  induction l generalizing l' with
  | nil =>
    refine (List.eq_nil_iff_forall_not_mem.mpr fun m hm => ?_).symm
    exact List.not_mem_nil (mem_of_filter_rank_eq (fun k => (h k).symm) hm)
  | cons m l ih =>
    cases l' with
    | nil => exact absurd (mem_of_filter_rank_eq h List.mem_cons_self) List.not_mem_nil
    | cons n l' =>
      have hle : m.rank ≤ n.rank :=
        rank_head_le hl (mem_of_filter_rank_eq (fun k => (h k).symm) List.mem_cons_self)
      have hge : n.rank ≤ m.rank :=
        rank_head_le hl' (mem_of_filter_rank_eq h List.mem_cons_self)
      have hrank : n.rank = m.rank := Int.le_antisymm hge hle
      have hheads := h m.rank
      simp only [List.filter_cons, hrank, decide_true, if_true, List.cons.injEq] at hheads
      obtain ⟨rfl, -⟩ := hheads
      refine congrArg (m :: ·) (ih hl.of_cons hl'.of_cons fun k => ?_)
      have htails := h k
      simp only [List.filter_cons] at htails
      split at htails
      · exact (List.cons.inj htails).2
      · exact htails

theorem IsRanking.unique (h : IsRanking ms l) (h' : IsRanking ms l') : l = l' :=
  eq_of_filter_rank_eq h.ordered h'.ordered fun k => (h.stable k).trans (h'.stable k).symm

theorem IsLastStrongest.rank_le (h : IsLastStrongest ms i m) (hn : n ∈ ms) : n.rank ≤ m.rank :=
  isStrongerThan_eq_false_iff.mp (h.highest n hn)

theorem IsLastStrongest.not_lt (h : IsLastStrongest ms i m) (h' : IsLastStrongest ms j n) :
    ¬ i < j := by
  intro hij
  have hlt := h.last j n hij h'.place
  have hle := h'.rank_le (List.mem_of_getElem? h.place)
  omega

theorem IsLastStrongest.unique (h : IsLastStrongest ms i m) (h' : IsLastStrongest ms j n) :
    m = n := by
  have hij : i = j := Nat.le_antisymm (Nat.not_lt.mp (h'.not_lt h)) (Nat.not_lt.mp (h.not_lt h'))
  subst hij
  exact Option.some.inj (h.place.symm.trans h'.place)

/-- Where none outranks the last method of its rank, that is the place. -/
theorem isLastStrongest_of_getLast? (hle : ∀ n ∈ ms, n.rank ≤ m.rank)
    (hlast : (ms.filter fun n => n.rank = m.rank).getLast? = some m) :
    ∃ i, IsLastStrongest ms i m := by
  rw [List.getLast?_filter, List.find?_eq_some_iff_append] at hlast
  obtain ⟨-, after, before, hsplit, hafter⟩ := hlast
  have hms : ms = before.reverse ++ m :: after.reverse := by
    rw [← List.reverse_reverse ms, hsplit]
    simp
  refine ⟨before.reverse.length, by simp [hms], ?_, ?_⟩
  · intro n hn
    exact isStrongerThan_eq_false_iff.mpr (hle n hn)
  · intro j n hj hn
    have hmem : n ∈ after := by
      rw [hms, List.getElem?_append_right (Nat.le_of_lt hj)] at hn
      obtain ⟨k, hk⟩ := Nat.exists_eq_add_of_lt hj
      rw [show j - before.reverse.length = k + 1 by omega, List.getElem?_cons_succ] at hn
      exact List.mem_reverse.mp (List.mem_of_getElem? hn)
    have hne : n.rank ≠ m.rank := by simpa using hafter n hmem
    have hle := hle n (by rw [hms]; simp [hmem])
    omega

end Method

namespace Registry

variable {r r' : Registry} {m : Method}

/-! ## The ranking of a registry -/

theorem rank_le_trans (a b c : Method) (hab : decide (a.rank ≤ b.rank) = true)
    (hbc : decide (b.rank ≤ c.rank) = true) : decide (a.rank ≤ c.rank) = true := by
  simp only [decide_eq_true_eq] at hab hbc ⊢
  exact Int.le_trans hab hbc

theorem rank_le_total (a b : Method) :
    (decide (a.rank ≤ b.rank) || decide (b.rank ≤ a.rank)) = true := by
  simpa using Int.le_total a.rank b.rank

theorem ranked_perm (r : Registry) : r.ranked.Perm r.methods :=
  List.mergeSort_perm ..

theorem ranked_ordered (r : Registry) : r.ranked.Pairwise fun m n => m.rank ≤ n.rank := by
  have h := List.pairwise_mergeSort rank_le_trans rank_le_total r.methods
  exact h.imp of_decide_eq_true

/-- The methods of one rank are in order as they are, so that sorting keeps them so. -/
theorem ranked_stable (r : Registry) (k : Int) :
    r.ranked.filter (fun m => m.rank = k) = r.methods.filter fun m => m.rank = k := by
  have hsorted : (r.methods.filter fun m => m.rank = k).Pairwise
      fun m n => decide (m.rank ≤ n.rank) = true := by
    refine List.pairwise_of_forall_mem_list fun m hm n hn => ?_
    have hm : m.rank = k := by simpa using (List.mem_filter.mp hm).2
    have hn : n.rank = k := by simpa using (List.mem_filter.mp hn).2
    simp [hm, hn]
  have hsub : (r.methods.filter fun m => m.rank = k).Sublist r.ranked :=
    List.sublist_mergeSort rank_le_trans rank_le_total hsorted List.filter_sublist
  have hkept := hsub.filter fun m => m.rank = k
  simp only [List.filter_filter, Bool.and_self] at hkept
  exact (hkept.eq_of_length (r.ranked_perm.filter _).length_eq.symm).symm

theorem isRanking_ranked (r : Registry) : Method.IsRanking r.methods r.ranked :=
  ⟨r.ranked_perm, r.ranked_ordered, r.ranked_stable⟩

theorem ranked_eq_iff {l : List Method} : r.ranked = l ↔ Method.IsRanking r.methods l := by
  constructor
  · rintro rfl
    exact r.isRanking_ranked
  · exact r.isRanking_ranked.unique

/-- Where no rank is shared the order of registration has no effect. -/
theorem ranked_congr (h : ∀ m, m ∈ r'.methods ↔ m ∈ r.methods)
    (distinct : (r.methods.map Method.rank).Nodup) : r'.ranked = r.ranked := by
  have hperm : r'.methods.Perm r.methods :=
    (List.perm_ext_iff_of_nodup r'.distinct.of_map r.distinct.of_map).mpr h
  have hranked : r'.ranked.Perm r.ranked :=
    r'.ranked_perm.trans (hperm.trans r.ranked_perm.symm)
  refine hranked.eq_of_pairwise (fun m n hm hn hmn hnm => ?_) r'.ranked_ordered r.ranked_ordered
  have hm : m ∈ r.methods := (hperm.subset (r'.ranked_perm.subset hm))
  have hn : n ∈ r.methods := r.ranked_perm.subset hn
  exact List.inj_on_of_nodup_map distinct hm hn (Int.le_antisymm hmn hnm)

/-! ## The strongest method -/

theorem strongest?_eq_none_iff : r.strongest? = none ↔ r.methods = [] := by
  rw [strongest?, List.getLast?_eq_none_iff]
  constructor
  · intro h
    exact (h ▸ r.ranked_perm).nil_eq.symm
  · intro h
    exact (h ▸ r.ranked_perm).eq_nil

theorem exists_isLastStrongest (h : r.strongest? = some m) :
    ∃ i, Method.IsLastStrongest r.methods i m := by
  obtain ⟨weaker, hranked⟩ := List.getLast?_eq_some_iff.mp h
  have hle : ∀ n ∈ weaker, n.rank ≤ m.rank := by
    have hordered := r.ranked_ordered
    rw [hranked, List.pairwise_append] at hordered
    intro n hn
    exact hordered.2.2 n hn m List.mem_cons_self
  refine Method.isLastStrongest_of_getLast? (fun n hn => ?_) ?_
  · have hmem : n ∈ weaker ++ [m] := hranked ▸ r.ranked_perm.symm.subset hn
    rcases List.mem_append.mp hmem with hmem | hmem
    · exact hle n hmem
    · exact Int.le_of_eq (congrArg Method.rank (List.mem_singleton.mp hmem))
  · rw [← r.ranked_stable, hranked, List.filter_append]
    simp

theorem strongest?_eq_some_iff :
    r.strongest? = some m ↔ ∃ i, Method.IsLastStrongest r.methods i m := by
  constructor
  · exact exists_isLastStrongest
  · rintro ⟨i, h⟩
    cases hs : r.strongest? with
    | none =>
      have hplace := h.place
      rw [strongest?_eq_none_iff.mp hs] at hplace
      cases hplace
    | some n =>
      obtain ⟨j, h'⟩ := exists_isLastStrongest hs
      rw [h.unique h']

/-! ## A list of methods -/

/-- **Methods are ranked by strength.** A list of methods is refused just if some name occurs twice
in it, and the fault is the first name that was met before. Methods of distinct names, whatever
their number and ranks, make a registry. It ranks them from the weakest to the strongest, those of
one rank as they were registered, and that is the only such ranking. Without a method there is no
strongest one; else it is the last of the ranking, the one method that none outranks and that
outranks all registered after it. Where no rank is shared, a registry of the same methods in
another order has the same ranking and the same strongest method. -/
theorem ranked_by_strength (ms : List Method) :
    ((∃ fault, ofList? ms = .error fault) ↔ ∃ name, 1 < (ms.map Method.name).count name) ∧
    (∀ fault, ofList? ms = .error fault → ∃ seen m rest, ms = seen ++ m :: rest ∧
      (seen.map Method.name).Nodup ∧ m.name ∈ seen.map Method.name ∧
      fault = .duplicateMethod m.name) ∧
    ((ms.map Method.name).Nodup → ∃ r, ofList? ms = .ok r ∧
      (∀ ranking, r.ranked = ranking ↔ Method.IsRanking ms ranking) ∧
      (r.strongest? = none ↔ ms = []) ∧ r.strongest? = r.ranked.getLast? ∧
      (∀ m, r.strongest? = some m ↔ ∃ i, Method.IsLastStrongest ms i m) ∧
      ∀ r' : Registry, (∀ m, m ∈ r'.methods ↔ m ∈ ms) → (ms.map Method.rank).Nodup →
        r'.ranked = r.ranked ∧ r'.strongest? = r.strongest?) := by
  refine ⟨?_, fun fault => split_of_ofList?_error, fun distinct => ?_⟩
  · rw [ofList?_error_iff, List.nodup_iff_count_le_one]
    simp only [not_forall, Nat.not_le]
  · refine ⟨⟨ms, distinct⟩, ofList?_eq_ok_iff.mpr rfl, fun ranking => ranked_eq_iff,
      strongest?_eq_none_iff, rfl, fun m => strongest?_eq_some_iff, fun r' hmem hranks => ?_⟩
    have hranked := ranked_congr (r := ⟨ms, distinct⟩) hmem hranks
    exact ⟨hranked, congrArg List.getLast? hranked⟩

/-- Two methods share the highest rank, and one has a rank below zero. -/
theorem ranked_by_strength_shared :
    let sms : Method := ⟨"sms", 1⟩
    let otp : Method := ⟨"otp", 3⟩
    let push : Method := ⟨"push", -2⟩
    let webauthn : Method := ⟨"webauthn", 3⟩
    ([sms, otp, push, webauthn].map Method.name).Nodup ∧
      ∃ r, ofList? [sms, otp, push, webauthn] = .ok r ∧
        r.ranked = [push, sms, otp, webauthn] ∧ r.strongest? = some webauthn := by
  intro sms otp push webauthn
  have distinct : ([sms, otp, push, webauthn].map Method.name).Nodup := by decide
  obtain ⟨r, hr, hranked, -, hlast, -⟩ :=
    (ranked_by_strength [sms, otp, push, webauthn]).2.2 distinct
  have hranking : r.ranked = [push, sms, otp, webauthn] := by
    refine (hranked _).mpr ⟨by decide, by decide, fun k => ?_⟩
    by_cases hk : k = 3
    · subst hk
      rfl
    · have hne : ¬ (3 : Int) = k := fun h => hk h.symm
      by_cases hneg : (-2 : Int) = k
      · subst hneg
        rfl
      · simp [sms, otp, push, webauthn, List.filter_cons, hne, hneg]
  exact ⟨distinct, r, hr, hranking, by rw [hlast, hranking]; rfl⟩

end Registry

end StepUp
