import Mathlib.Data.List.TakeWhile
import StepUp.Chain

/-!
# The search for a candidate

A resolver passes when it abstains or proposes white space only. The search looks at the first
resolver of the chain that does not pass and at none behind it:

* `find_of_all_pass`: where every resolver passes, nothing is found;
* `find_of_raises`, `find_of_proposes`: the failure or the proposal of the first resolver that
  does not pass is what is found;
* `find_append_cons`: the resolvers behind it do not matter, not even for the records;
* `all_pass_or_settles`: there is no other case.
-/

namespace StepUp

/-- White space only is what stripping leaves nothing of. -/
theorem Text.isBlank_iff_strip_eq_nil {m : Text} : m.isBlank = true ↔ m.strip = [] := by
  have hdrop : m.strip = [] ↔ ∀ x ∈ m.dropWhile CodePoint.isSpace, x.isSpace = true := by
    simp [strip, trim, List.dropWhile_eq_nil_iff]
  rw [hdrop, isBlank, List.all_eq_true]
  constructor
  · intro h x hx
    exact h x ((List.dropWhile_suffix _).subset hx)
  · intro h
    apply List.dropWhile_eq_nil_iff.mp
    cases hd : m.dropWhile CodePoint.isSpace with
    | nil => rfl
    | cons x rest =>
      rw [hd] at h
      -- the text would begin, after its white space, with white space
      have hx : x.isSpace = false := by
        simpa [hd] using List.head_dropWhile_not CodePoint.isSpace (l := m) (by simp [hd])
      simp [hx] at h

namespace Resolver

variable {r : Resolver} {a : Option Authentication} {t : TargetService} {c : RequestContext}

/-- The resolver leaves the matter to others: it abstains, or all it proposes is white space. -/
def Passes (r : Resolver) (a : Option Authentication) (t : TargetService)
    (c : RequestContext) : Prop :=
  (r.propose a t c).outcome = .ok none ∨
    ∃ m, (r.propose a t c).outcome = .ok (some m) ∧ m.strip = []

theorem passes_iff : r.Passes a t c ↔
    ∃ p, (r.propose a t c).outcome = .ok p ∧ (p.filter fun m => !m.isBlank) = none := by
  constructor
  · rintro (h | ⟨m, h, hm⟩)
    · exact ⟨none, h, rfl⟩
    · exact ⟨some m, h, by simp [Option.filter, Text.isBlank_iff_strip_eq_nil.mpr hm]⟩
  · rintro ⟨p, h, hp⟩
    cases p with
    | none => exact Or.inl h
    | some m =>
      have hm : m.isBlank = true := by simpa [Option.filter] using hp
      exact Or.inr ⟨m, h, Text.isBlank_iff_strip_eq_nil.mp hm⟩

theorem not_passes_iff_of_proposes {m : Text} (h : (r.propose a t c).outcome = .ok (some m)) :
    ¬ r.Passes a t c ↔ m.isBlank = false := by
  rw [← Bool.not_eq_true, Text.isBlank_iff_strip_eq_nil, not_iff_not]
  simp [Passes, h]

end Resolver

namespace Chain

variable {chain : Chain} {a : Option Authentication} {t : TargetService} {c : RequestContext}
  {r : Resolver}

/-- The resolver is the first one of the chain that does not pass. -/
def Settles (chain : Chain) (a : Option Authentication) (t : TargetService) (c : RequestContext)
    (r : Resolver) : Prop :=
  ∃ before after, chain.resolvers = before ++ r :: after ∧ (∀ q ∈ before, q.Passes a t c) ∧
    ¬ r.Passes a t c

theorem Settles.mem (h : chain.Settles a t c r) : r ∈ chain.resolvers := by
  obtain ⟨before, after, hsplit, -, -⟩ := h
  rw [hsplit]
  exact List.mem_append_right _ List.mem_cons_self

theorem Settles.not_passes (h : chain.Settles a t c r) : ¬ r.Passes a t c := by
  obtain ⟨_, _, -, -, hr⟩ := h
  exact hr

/-- The resolver settles the matter by failing. -/
def Raises (chain : Chain) (a : Option Authentication) (t : TargetService) (c : RequestContext)
    (r : Resolver) (f : HostFailure) : Prop :=
  chain.Settles a t c r ∧ (r.propose a t c).outcome = .error f

/-- The resolver settles the matter by proposing a method. -/
def Proposes (chain : Chain) (a : Option Authentication) (t : TargetService) (c : RequestContext)
    (r : Resolver) (m : Text) : Prop :=
  chain.Settles a t c r ∧ (r.propose a t c).outcome = .ok (some m)

/-! ## One resolver -/

theorem find_cons_of_passes (h : r.Passes a t c) (rest : List Resolver) :
    find a t c (r :: rest) =
      ((r.propose a t c).records ++ (find a t c rest).1, (find a t c rest).2) := by
  obtain ⟨p, hp, hblank⟩ := Resolver.passes_iff.mp h
  simp [find, hp, hblank]

theorem find_cons_of_raises {f : HostFailure} (h : (r.propose a t c).outcome = .error f)
    (rest : List Resolver) :
    find a t c (r :: rest) = ((r.propose a t c).records, .failure r.name r.source f) := by
  simp [find, h]

theorem find_cons_of_proposes {m : Text} (h : (r.propose a t c).outcome = .ok (some m))
    (hn : ¬ r.Passes a t c) (rest : List Resolver) :
    find a t c (r :: rest) = ((r.propose a t c).records, .candidate m r.source) := by
  simp [find, h, Option.filter, (Resolver.not_passes_iff_of_proposes h).mp hn]

/-- A resolver that does not pass is the last one to record anything. -/
theorem find_cons_records (h : ¬ r.Passes a t c) (rest : List Resolver) :
    (find a t c (r :: rest)).1 = (r.propose a t c).records := by
  cases hout : (r.propose a t c).outcome with
  | error f => rw [find_cons_of_raises hout]
  | ok p =>
    cases p with
    | none => exact absurd (Or.inl hout) h
    | some m => rw [find_cons_of_proposes hout h]

/-! ## The whole chain -/

theorem find_append_of_pass {before : List Resolver} (h : ∀ q ∈ before, q.Passes a t c)
    (rest : List Resolver) : (find a t c (before ++ rest)).2 = (find a t c rest).2 := by
  induction before with
  | nil => rfl
  | cons q before ih =>
    rw [List.cons_append, find_cons_of_passes (h q List.mem_cons_self)]
    exact ih (fun q hq => h q (List.mem_cons_of_mem _ hq))

theorem find_of_all_pass (h : ∀ r ∈ chain.resolvers, r.Passes a t c) :
    (find a t c chain.resolvers).2 = .nothing := by
  have := find_append_of_pass h []
  rwa [List.append_nil] at this

theorem find_of_raises {f : HostFailure} (h : chain.Raises a t c r f) :
    (find a t c chain.resolvers).2 = .failure r.name r.source f := by
  obtain ⟨⟨before, after, hsplit, hbefore, -⟩, hout⟩ := h
  rw [hsplit, find_append_of_pass hbefore, find_cons_of_raises hout]

theorem find_of_proposes {m : Text} (h : chain.Proposes a t c r m) :
    (find a t c chain.resolvers).2 = .candidate m r.source := by
  obtain ⟨⟨before, after, hsplit, hbefore, hr⟩, hout⟩ := h
  rw [hsplit, find_append_of_pass hbefore, find_cons_of_proposes hout hr]

/-- What stands behind a resolver that does not pass is not looked at. -/
theorem find_append_cons (hr : ¬ r.Passes a t c) (before after : List Resolver) :
    find a t c (before ++ r :: after) = find a t c (before ++ [r]) := by
  induction before with
  | nil =>
    cases hout : (r.propose a t c).outcome with
    | error f => simp only [List.nil_append, find_cons_of_raises hout]
    | ok p =>
      cases p with
      | none => exact absurd (Or.inl hout) hr
      | some m => simp only [List.nil_append, find_cons_of_proposes hout hr]
  | cons q before ih => simp only [List.cons_append, find, ih]

theorem all_pass_or_settles (chain : Chain) (a : Option Authentication) (t : TargetService)
    (c : RequestContext) :
    (∀ r ∈ chain.resolvers, r.Passes a t c) ∨ ∃ r, chain.Settles a t c r := by
  unfold Settles
  induction chain.resolvers with
  | nil => exact Or.inl (by simp)
  | cons q rest ih =>
    by_cases hq : q.Passes a t c
    · rcases ih with hall | ⟨r, before, after, hsplit, hbefore, hr⟩
      · exact Or.inl (List.forall_mem_cons.mpr ⟨hq, hall⟩)
      · refine Or.inr ⟨r, q :: before, after, by rw [hsplit, List.cons_append], ?_, hr⟩
        exact List.forall_mem_cons.mpr ⟨hq, hbefore⟩
    · exact Or.inr ⟨q, [], rest, rfl, by simp, hq⟩

/-- A chain comes to nothing, to a failure or to a proposal. -/
theorem search_cases (chain : Chain) (a : Option Authentication) (t : TargetService)
    (c : RequestContext) :
    (∀ r ∈ chain.resolvers, r.Passes a t c) ∨ (∃ r f, chain.Raises a t c r f) ∨
      ∃ r m, chain.Proposes a t c r m := by
  rcases chain.all_pass_or_settles a t c with hall | ⟨r, hr⟩
  · exact Or.inl hall
  · cases hout : (r.propose a t c).outcome with
    | error f => exact Or.inr (Or.inl ⟨r, f, hr, hout⟩)
    | ok p =>
      cases p with
      | none => exact absurd (Or.inl hout) hr.not_passes
      | some m => exact Or.inr (Or.inr ⟨r, m, hr, hout⟩)

end Chain

end StepUp
