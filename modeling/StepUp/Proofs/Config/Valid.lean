import Mathlib.Data.List.Nodup
import StepUp.Config.Basic
import StepUp.Proofs.Validation.Checked

/-!
# What validation guarantees

A configuration that `Config.check` accepts is `Config.Valid`: the names of its methods are
distinct and none is blank, its default method is one of them, and the ids of its services are
distinct (`Config.valid_of_check`). A registry of its methods therefore exists, and with it the
chain that the configuration describes (`Config.Valid.ofConfig?_eq`).
-/

namespace StepUp

namespace Method

theorem checkName_eq_ok_iff {v : Json} {name : Text} : checkName v = .ok name ↔
    v = .str name ∧ name.Unicode ∧ name ≠ [] ∧ name.isBlank = false := by
  rw [checkName, exceptBind_eq_ok_iff]
  simp only [Json.checkNonempty_eq_ok_iff]
  constructor
  · rintro ⟨t, ⟨rfl, hunicode, hne⟩, h⟩
    split at h
    · cases h
    · next hblank =>
      cases h
      exact ⟨rfl, hunicode, hne, Bool.eq_false_iff.mpr hblank⟩
  · rintro ⟨rfl, hunicode, hne, hblank⟩
    refine ⟨name, ⟨rfl, hunicode, hne⟩, ?_⟩
    rw [if_neg (Bool.eq_false_iff.mp hblank)]
    rfl

theorem check_eq_ok_iff {v : Json} {m : Method} : check v = .ok m ↔
    ∃ entries, v = .obj entries ∧ Json.required entries "name" checkName = .ok m.name ∧
      Json.required entries "rank" (Json.checkAtLeast 0) = .ok m.rank := by
  constructor
  · intro h
    obtain ⟨entries, rfl, hfields⟩ := Json.checkModel_eq_ok h
    obtain ⟨_, _, hmake, hrank, rfl⟩ := Checked.ap_eq_ok_iff.mp hfields
    obtain ⟨_, hname, rfl⟩ := Checked.map_eq_ok_iff.mp hmake
    exact ⟨entries, rfl, hname, hrank⟩
  · rintro ⟨entries, rfl, hname, hrank⟩
    rw [check, Json.checkModel, hname, hrank]
    rfl

theorem isBlank_name_of_check {v : Json} {m : Method} (h : check v = .ok m) :
    m.name.isBlank = false := by
  obtain ⟨_, -, hname, -⟩ := check_eq_ok_iff.mp h
  obtain ⟨_, -, hname⟩ := Json.required_eq_ok hname
  exact (checkName_eq_ok_iff.mp hname).2.2.2

end Method

namespace Config

variable {c : Config}

/-- The fields of a configuration are sound and do not contradict each other. -/
structure Valid (c : Config) : Prop where
  distinct : c.methodNames.Nodup
  named : ∀ m ∈ c.methods, m.name.isBlank = false
  default_mem : ∀ d, c.defaultMethod = some d → d ∈ c.methodNames
  services_distinct : c.serviceIds.Nodup

theorem repeated_eq_nil_iff {ts : List Text} : (repeated ts).isEmpty = true ↔ ts.Nodup := by
  rw [List.isEmpty_iff, List.eq_nil_iff_forall_not_mem, List.nodup_iff_count_le_one]
  simp only [repeated, List.mem_mergeSort, List.mem_eraseDups, List.mem_filter,
    decide_eq_true_eq, not_and, Nat.not_lt]
  constructor
  · intro h t
    by_cases ht : t ∈ ts
    · exact h t ht
    · rw [List.count_eq_zero_of_not_mem ht]
      exact Nat.zero_le 1
  · intro h t _
    exact h t

theorem contradiction?_eq_none_iff : c.contradiction? = none ↔
    c.methodNames.Nodup ∧ (∀ d, c.defaultMethod = some d → d ∈ c.methodNames) ∧
      c.serviceIds.Nodup := by
  rw [← repeated_eq_nil_iff, ← repeated_eq_nil_iff]
  unfold contradiction?
  cases (repeated c.methodNames).isEmpty with
  | false => simp
  | true =>
    cases hd : c.defaultMethod with
    | none => simp
    | some d =>
      by_cases hmem : d ∈ c.methodNames
      · simp [Option.filter, hmem]
      · simp [Option.filter, hmem]

/-- Each field of a configuration is what the check of the field gives. -/
structure FieldsOf (c : Config) (entries : List (Text × Json)) : Prop where
  methods : Json.optional entries "authentication_methods" [] (Json.checkListOf Method.check) =
    .ok c.methods
  defaultMethod : Json.optional entries "default_authentication_method" none
    Json.checkNullableText = .ok c.defaultMethod
  parameter : Json.optional entries "authn_method_parameter" standard.methodParameter
    Json.checkNonempty = .ok c.methodParameter
  property : Json.optional entries "service_method_property" standard.serviceMethodProperty
    Json.checkNonempty = .ok c.serviceMethodProperty
  principal : Json.optional entries "principal_method_attribute" standard.principalMethodAttribute
    Json.checkNullableText = .ok c.principalMethodAttribute
  selection : Json.optional entries "role_selection" .firstMatch
    (Json.checkChoice (RoleSelection.all.map fun s => (s.text, s))) = .ok c.roleSelection
  services : Json.optional entries "services" [] (Json.checkListOf ServiceDefinition.check) =
    .ok c.services
  logging : Json.optional entries "logging" {} LoggingConfig.check = .ok c.logging

theorem checkFields_eq_ok_iff {entries : List (Text × Json)} :
    checkFields entries = .ok c ↔ c.FieldsOf entries := by
  constructor
  · intro h
    unfold checkFields at h
    simp only [Checked.ap_eq_ok_iff, Checked.map_eq_ok_iff] at h
    obtain ⟨_, _, ⟨_, _, ⟨_, _, ⟨_, _, ⟨_, _, ⟨_, _, ⟨_, _, ⟨_, hmethods, rfl⟩, hdefault, rfl⟩,
      hparameter, rfl⟩, hproperty, rfl⟩, hprincipal, rfl⟩, hselection, rfl⟩, hservices, rfl⟩,
      hlogging, rfl⟩ := h
    exact ⟨hmethods, hdefault, hparameter, hproperty, hprincipal, hselection, hservices, hlogging⟩
  · intro h
    unfold checkFields
    rw [h.methods, h.defaultMethod, h.parameter, h.property, h.principal, h.selection, h.services,
      h.logging]
    rfl

theorem FieldsOf.exists_of_mem {entries : List (Text × Json)} (h : c.FieldsOf entries) {m : Method}
    (hm : m ∈ c.methods) : ∃ v, Method.check v = .ok m := by
  rcases Json.optional_eq_ok h.methods with hnil | ⟨v, -, hv⟩
  · rw [hnil] at hm
    cases hm
  · cases v with
    | arr items =>
      obtain ⟨w, -, hw⟩ := Checked.exists_of_mem_eachFrom hv hm
      exact ⟨w, hw⟩
    | _ => cases hv

/-- A document is accepted when its fields are and agree with each other. -/
theorem check_eq_ok_iff {v : Json} : check v = .ok c ↔
    ∃ entries, v = .obj entries ∧ c.FieldsOf entries ∧ c.contradiction? = none := by
  constructor
  · intro h
    obtain ⟨entries, rfl, h⟩ := Json.checkModel_eq_ok h
    obtain ⟨d, hfields, h⟩ := exceptBind_eq_ok_iff.mp h
    split at h
    · cases h
    · next hagree =>
      cases h
      exact ⟨entries, rfl, checkFields_eq_ok_iff.mp hfields, hagree⟩
  · rintro ⟨entries, rfl, hfields, hagree⟩
    refine exceptBind_eq_ok_iff.mpr ⟨c, checkFields_eq_ok_iff.mpr hfields, ?_⟩
    rw [hagree]
    rfl

/-- **What validation guarantees.** -/
theorem valid_of_check {v : Json} (h : check v = .ok c) : c.Valid := by
  obtain ⟨entries, -, hfields, hagree⟩ := check_eq_ok_iff.mp h
  obtain ⟨hdistinct, hdefault, hservices⟩ := contradiction?_eq_none_iff.mp hagree
  refine ⟨hdistinct, ?_, hdefault, hservices⟩
  intro m hm
  obtain ⟨w, hw⟩ := hfields.exists_of_mem hm
  exact Method.isBlank_name_of_check hw

namespace Valid

/-- The registry of a valid configuration. -/
def registry (h : c.Valid) : Registry := ⟨c.methods, h.distinct⟩

/-- The chain that a valid configuration describes. -/
def chain (h : c.Valid) (services : ServiceDirectory) (store : Option AuthenticationStore) :
    Chain :=
  ⟨c.resolvers h.registry services store, { registry := h.registry }⟩

theorem ofConfig?_eq (h : c.Valid) (services : ServiceDirectory)
    (store : Option AuthenticationStore) :
    Chain.ofConfig? c services store = .ok (h.chain services store) := by
  have hregistry : Registry.ofList? c.methods = .ok h.registry := dif_pos h.distinct
  simp only [Chain.ofConfig?, hregistry]
  rfl

end Valid

end Config

end StepUp
