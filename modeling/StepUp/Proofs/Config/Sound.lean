import StepUp.Proofs.Config.Valid

/-!
# Sound configurations

`Config.Sound` says field by field what is left of a document after it was accepted. Every
configuration from a document that was read is sound (`Config.sound_of_check`), and validation
accepts the written form of a sound configuration and gives the configuration back
(`Config.Sound.check_toJson`). In between lie the liberties of validation, which takes other forms
of a rank, fills in defaults and leaves out what it does not know; none of them changes a sound
configuration.
-/

namespace StepUp

/-! ## Methods -/

namespace Method

structure Sound (m : Method) : Prop where
  name_unicode : m.name.Unicode
  name_nonempty : m.name ≠ []
  name_nonblank : m.name.isBlank = false
  rank_nonneg : 0 ≤ m.rank
  rank_limit : Json.IntInLimit m.rank

theorem ensures_check : Json.Ensures check Sound := by
  intro v m hv h
  obtain ⟨_, rfl, hname, hrank⟩ := check_eq_ok_iff.mp h
  obtain ⟨_, -, hname⟩ := Json.required_eq_ok hname
  obtain ⟨-, hunicode, hne, hblank⟩ := checkName_eq_ok_iff.mp hname
  obtain ⟨_, hw, hrank⟩ := Json.required_eq_ok hrank
  obtain ⟨hinteger, hnonneg⟩ := Json.checkAtLeast_eq_ok_iff.mp hrank
  exact ⟨hunicode, hne, hblank, hnonneg, Json.intInLimit_of_checkInteger (hv.lookup hw) hinteger⟩

theorem Sound.check_methodJson {m : Method} (h : m.Sound) :
    check (Config.methodJson m) = .ok m := by
  have hname := checkName_eq_ok_iff.mpr ⟨rfl, h.name_unicode, h.name_nonempty, h.name_nonblank⟩
  have hrank := Json.checkAtLeast_eq_ok_iff.mpr
    ⟨(rfl : Json.checkInteger (.int m.rank) = .ok m.rank), h.rank_nonneg⟩
  exact check_eq_ok_iff.mpr ⟨_, rfl, Json.required_of_lookup rfl hname,
    Json.required_of_lookup rfl hrank⟩

end Method

/-! ## Services -/

namespace ServiceDefinition

structure Sound (d : ServiceDefinition) : Prop where
  id_unicode : d.id.Unicode
  id_nonempty : d.id ≠ []
  serviceId_unicode : d.serviceId.Unicode
  serviceId_nonempty : d.serviceId ≠ []
  distinct : (d.properties.map Prod.fst).Nodup

theorem check_eq_ok_iff {v : Json} {d : ServiceDefinition} : check v = .ok d ↔
    ∃ entries, v = .obj entries ∧ Json.required entries "id" Json.checkNonempty = .ok d.id ∧
      Json.required entries "service_id" Json.checkNonempty = .ok d.serviceId ∧
      Json.optional entries "name" none Json.checkNullableText = .ok d.name ∧
      Json.optional entries "properties" [] (Json.checkObjectOf Json.checkText) =
        .ok d.properties := by
  constructor
  · intro h
    obtain ⟨entries, rfl, hfields⟩ := Json.checkModel_eq_ok h
    simp only [Checked.ap_eq_ok_iff, Checked.map_eq_ok_iff] at hfields
    obtain ⟨_, _, ⟨_, _, ⟨_, _, ⟨_, hid, rfl⟩, hserviceId, rfl⟩, hname, rfl⟩, hproperties, rfl⟩ :=
      hfields
    exact ⟨entries, rfl, hid, hserviceId, hname, hproperties⟩
  · rintro ⟨entries, rfl, hid, hserviceId, hname, hproperties⟩
    rw [check, Json.checkModel, hid, hserviceId, hname, hproperties]
    rfl

theorem ensures_check : Json.Ensures check Sound := by
  intro v d hv h
  obtain ⟨entries, rfl, hid, hserviceId, -, hproperties⟩ := check_eq_ok_iff.mp h
  obtain ⟨_, -, hid⟩ := Json.required_eq_ok hid
  obtain ⟨_, -, hserviceId⟩ := Json.required_eq_ok hserviceId
  obtain ⟨-, hid, hidne⟩ := Json.checkNonempty_eq_ok_iff.mp hid
  obtain ⟨-, hserviceId, hserviceIdne⟩ := Json.checkNonempty_eq_ok_iff.mp hserviceId
  refine ⟨hid, hidne, hserviceId, hserviceIdne, ?_⟩
  exact Json.ensures_checkObjectOf.optional (P := fun qs => (qs.map Prod.fst).Nodup)
    List.nodup_nil hv hproperties

theorem Sound.check_serviceJson {d : ServiceDefinition} (h : d.Sound) :
    check (Config.serviceJson d) = .ok d := by
  have hid := Json.checkNonempty_eq_ok_iff.mpr ⟨rfl, h.id_unicode, h.id_nonempty⟩
  have hserviceId := Json.checkNonempty_eq_ok_iff.mpr
    ⟨rfl, h.serviceId_unicode, h.serviceId_nonempty⟩
  have hproperties : Json.checkObjectOf Json.checkText
      (.obj (d.properties.map fun p => (p.1, .str p.2))) = .ok d.properties :=
    Checked.eachEntry_map fun _ _ => rfl
  exact check_eq_ok_iff.mpr ⟨_, rfl, Json.required_of_lookup rfl hid,
    Json.required_of_lookup rfl hserviceId,
    Json.optional_of_lookup rfl (Json.checkNullableText_ofOption d.name),
    Json.optional_of_lookup rfl hproperties⟩

end ServiceDefinition

/-! ## The configuration -/

namespace LoggingConfig

theorem check_eq_ok_iff {v : Json} {l : LoggingConfig} : check v = .ok l ↔
    ∃ entries, v = .obj entries ∧
      Json.optional entries "log_dir" none Json.checkNullableText = .ok l.logDir ∧
      Json.optional entries "log_level" .info (Json.checkChoice (levels.map fun l => (l.text, l))) =
        .ok l.logLevel := by
  constructor
  · intro h
    obtain ⟨entries, rfl, hfields⟩ := Json.checkModel_eq_ok h
    obtain ⟨_, _, hmake, hlevel, rfl⟩ := Checked.ap_eq_ok_iff.mp hfields
    obtain ⟨_, hdir, rfl⟩ := Checked.map_eq_ok_iff.mp hmake
    exact ⟨entries, rfl, hdir, hlevel⟩
  · rintro ⟨entries, rfl, hdir, hlevel⟩
    rw [check, Json.checkModel, hdir, hlevel]
    rfl

theorem ensures_check : Json.Ensures check fun l => l.logLevel ∈ levels := by
  intro v l hv h
  obtain ⟨_, rfl, -, hlevel⟩ := check_eq_ok_iff.mp h
  rcases Json.optional_eq_ok hlevel with hlevel | ⟨_, -, hlevel⟩
  · rw [hlevel]
    decide
  · simpa using Json.mem_of_checkChoice hlevel

theorem check_toJson {l : LoggingConfig} (h : l.logLevel ∈ levels) : check l.toJson = .ok l := by
  have hlevel : Json.checkChoice (levels.map fun l => (l.text, l)) (.str l.logLevel.text) =
      .ok l.logLevel := by
    simp only [levels, List.mem_cons, List.not_mem_nil, or_false] at h
    rcases h with h | h | h | h <;> rw [h] <;> rfl
  exact check_eq_ok_iff.mpr ⟨_, rfl,
    Json.optional_of_lookup rfl (Json.checkNullableText_ofOption l.logDir),
    Json.optional_of_lookup rfl hlevel⟩

end LoggingConfig

theorem RoleSelection.checkChoice_text (s : RoleSelection) :
    Json.checkChoice (all.map fun s => (s.text, s)) (.str s.text) = .ok s := by
  cases s <;> rfl

namespace Config

variable {c : Config}

structure Sound (c : Config) : Prop where
  methods : ∀ m ∈ c.methods, m.Sound
  parameter_unicode : c.methodParameter.Unicode
  parameter_nonempty : c.methodParameter ≠ []
  property_unicode : c.serviceMethodProperty.Unicode
  property_nonempty : c.serviceMethodProperty ≠ []
  services : ∀ d ∈ c.services, d.Sound
  level : c.logging.logLevel ∈ LoggingConfig.levels
  agreed : c.contradiction? = none

/-- What a reader returned and validation accepted is sound. -/
theorem sound_of_check {v : Json} (hv : v.Regular Json.Bounded) (h : check v = .ok c) :
    c.Sound := by
  obtain ⟨entries, rfl, hfields, hagree⟩ := check_eq_ok_iff.mp h
  have hparameter := Json.ensures_checkNonempty.optional (by decide) hv hfields.parameter
  have hproperty := Json.ensures_checkNonempty.optional (by decide) hv hfields.property
  exact {
    methods := Method.ensures_check.listOf.optional (List.forall_mem_nil _) hv hfields.methods
    parameter_unicode := hparameter.1
    parameter_nonempty := hparameter.2
    property_unicode := hproperty.1
    property_nonempty := hproperty.2
    services :=
      ServiceDefinition.ensures_check.listOf.optional (List.forall_mem_nil _) hv hfields.services
    level := LoggingConfig.ensures_check.optional (by decide) hv hfields.logging
    agreed := hagree }

/-- The written form of a sound configuration is accepted and gives it back. -/
theorem Sound.check_toJson (h : c.Sound) : check c.toJson = .ok c := by
  have hmethods : Json.checkListOf Method.check (.arr (c.methods.map methodJson)) = .ok c.methods :=
    Checked.eachFrom_map (fun m hm => (h.methods m hm).check_methodJson) 0
  have hservices : Json.checkListOf ServiceDefinition.check (.arr (c.services.map serviceJson)) =
      .ok c.services :=
    Checked.eachFrom_map (fun d hd => (h.services d hd).check_serviceJson) 0
  have hparameter := Json.checkNonempty_eq_ok_iff.mpr
    ⟨rfl, h.parameter_unicode, h.parameter_nonempty⟩
  have hproperty := Json.checkNonempty_eq_ok_iff.mpr ⟨rfl, h.property_unicode, h.property_nonempty⟩
  refine check_eq_ok_iff.mpr ⟨_, rfl, ?_, h.agreed⟩
  exact {
    methods := Json.optional_of_lookup rfl hmethods
    defaultMethod := Json.optional_of_lookup rfl (Json.checkNullableText_ofOption c.defaultMethod)
    parameter := Json.optional_of_lookup rfl hparameter
    property := Json.optional_of_lookup rfl hproperty
    principal :=
      Json.optional_of_lookup rfl (Json.checkNullableText_ofOption c.principalMethodAttribute)
    selection := Json.optional_of_lookup rfl c.roleSelection.checkChoice_text
    services := Json.optional_of_lookup rfl hservices
    logging := Json.optional_of_lookup rfl (LoggingConfig.check_toJson h.level) }

end Config

end StepUp
