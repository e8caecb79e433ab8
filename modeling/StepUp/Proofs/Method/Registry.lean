import Mathlib.Data.List.Nodup
import StepUp.Method.Registry

/-!
# Registering methods and looking them up

A list of methods is a registry unless a name is met twice (`ofList?_eq_ok_iff`); of a list that is
refused the fault is the first name that was met before (`split_of_ofList?_error`).

The three ways to ask a registry for a name, `get?`, `contains` and `supports`, agree with each
other and with the list of methods: a name is known exactly when a registered method has it, and
as names are distinct that method is the only one (`get?_eq_some_iff`, `get?_eq_none_iff`,
`supports_some_iff`).
-/

namespace StepUp.Registry

variable {r : Registry} {name : Text} {m : Method} {ms : List Method}

/-! ## Names met before -/

theorem firstRepeated?_eq_none_iff {seen names : List Text} :
    firstRepeated? seen names = none ↔ names.Nodup ∧ ∀ n ∈ names, n ∉ seen := by
  induction names generalizing seen with
  | nil => simp [firstRepeated?]
  | cons n rest ih =>
    rw [firstRepeated?]
    by_cases hn : n ∈ seen
    · rw [if_pos hn]
      constructor
      · nofun
      · intro h
        exact absurd hn (h.2 n List.mem_cons_self)
    · rw [if_neg hn, ih, List.nodup_cons]
      constructor
      · rintro ⟨hdistinct, hfresh⟩
        have hnew : n ∉ rest := fun hmem => hfresh n hmem List.mem_cons_self
        refine ⟨⟨hnew, hdistinct⟩, List.forall_mem_cons.mpr ⟨hn, ?_⟩⟩
        intro m hm hseen
        exact hfresh m hm (List.mem_cons_of_mem _ hseen)
      · rintro ⟨⟨hnew, hdistinct⟩, hfresh⟩
        refine ⟨hdistinct, ?_⟩
        intro m hm hseen
        rcases List.mem_cons.mp hseen with rfl | hseen
        · exact hnew hm
        · exact hfresh m (List.mem_cons_of_mem _ hm) hseen

/-- Up to the first name that was met before all are new. -/
theorem split_of_firstRepeated? {seen names : List Text} (h : firstRepeated? seen names = some name) :
    ∃ before after, names = before ++ name :: after ∧ before.Nodup ∧ (∀ n ∈ before, n ∉ seen) ∧
      (name ∈ before ∨ name ∈ seen) := by
  fun_induction firstRepeated? seen names with
  | case1 => cases h
  | case2 seen n rest hmet =>
    cases h
    exact ⟨[], rest, rfl, List.nodup_nil, nofun, Or.inr hmet⟩
  | case3 seen n rest hnew ih =>
    obtain ⟨before, after, rfl, hdistinct, hfresh, hmet⟩ := ih h
    have hn : n ∉ before := fun hmem => hfresh n hmem List.mem_cons_self
    refine ⟨n :: before, after, rfl, List.nodup_cons.mpr ⟨hn, hdistinct⟩, ?_, ?_⟩
    · refine List.forall_mem_cons.mpr ⟨hnew, fun m hm hseen => ?_⟩
      exact hfresh m hm (List.mem_cons_of_mem _ hseen)
    · rcases hmet with hmem | hmem
      · exact Or.inl (List.mem_cons_of_mem _ hmem)
      · rcases List.mem_cons.mp hmem with rfl | hmem
        · exact Or.inl List.mem_cons_self
        · exact Or.inr hmem

theorem ofList?_eq_ok_iff : ofList? ms = .ok r ↔ r.methods = ms := by
  constructor
  · intro h
    rw [ofList?] at h
    split at h
    · cases h
      rfl
    · cases h
  · rintro rfl
    exact dif_pos r.distinct

theorem ofList?_error_iff : (∃ fault, ofList? ms = .error fault) ↔ ¬ (ms.map Method.name).Nodup := by
  rw [ofList?]
  split
  · next h => simpa using h
  · next h => simpa using h

theorem split_of_ofList?_error {fault : ConfigurationFault} (h : ofList? ms = .error fault) :
    ∃ seen m rest, ms = seen ++ m :: rest ∧ (seen.map Method.name).Nodup ∧
      m.name ∈ seen.map Method.name ∧ fault = .duplicateMethod m.name := by
  have hrepeated : ¬ (ms.map Method.name).Nodup := ofList?_error_iff.mp ⟨fault, h⟩
  rw [ofList?, dif_neg hrepeated] at h
  cases hfirst : firstRepeated? [] (ms.map Method.name) with
  | none => exact absurd (firstRepeated?_eq_none_iff.mp hfirst).1 hrepeated
  | some name =>
    rw [hfirst] at h
    obtain ⟨before, after, hsplit, hdistinct, -, hmet⟩ := split_of_firstRepeated? hfirst
    obtain ⟨seen, tail, rfl, rfl, htail⟩ := List.map_eq_append_iff.mp hsplit
    obtain ⟨m, rest, rfl, rfl, -⟩ := List.map_eq_cons_iff.mp htail
    have hseen : m.name ∈ seen.map Method.name := hmet.resolve_right List.not_mem_nil
    exact ⟨seen, m, rest, rfl, hdistinct, hseen, (Except.error.inj h).symm⟩

/-! ## Asking for a name -/

theorem mem_names_iff : name ∈ r.names ↔ ∃ m ∈ r.methods, m.name = name := by
  simp only [names, List.mem_map]

theorem name_mem_names (h : m ∈ r.methods) : m.name ∈ r.names :=
  mem_names_iff.mpr ⟨m, h, rfl⟩

theorem get?_eq_none_iff : r.get? name = none ↔ name ∉ r.names := by
  rw [mem_names_iff]
  simp [get?, List.find?_eq_none]

theorem get?_eq_some_iff : r.get? name = some m ↔ m ∈ r.methods ∧ m.name = name := by
  constructor
  · intro h
    exact ⟨List.mem_of_find?_eq_some h, by simpa using List.find?_some h⟩
  · rintro ⟨hm, rfl⟩
    cases h : r.get? m.name with
    | none => exact absurd (name_mem_names hm) (get?_eq_none_iff.mp h)
    | some m' =>
      have hm' : m' ∈ r.methods := List.mem_of_find?_eq_some h
      have hname : m'.name = m.name := by simpa using List.find?_some h
      rw [List.inj_on_of_nodup_map r.distinct hm' hm hname]

theorem supports_some_iff : r.supports (some name) = true ↔ name ∈ r.names := by
  simp [supports, contains]

theorem get?_isSome_iff : (r.get? name).isSome = true ↔ name ∈ r.names := by
  rw [Option.isSome_iff_ne_none, ne_eq, get?_eq_none_iff, not_not]

theorem contains_iff : r.contains name = true ↔ name ∈ r.names :=
  supports_some_iff

end StepUp.Registry
