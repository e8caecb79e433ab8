import StepUp.Proofs.Config.Sound
import StepUp.Proofs.Validation.Rules

/-!
# Which documents are configurations

`Config.Typed` describes the documents whose fields have the types that the models declare for
them, `Config.rules` the fields of such a document that are under a rule. Validation accepts a
document of these types if and only if all fields meet their rules (`Config.Filled` and
`Config.Spelled`) and agree with each other (`Config.Agrees`), and `Config.accepts_iff_meaningful`
adds what it reports otherwise: an error for each field that breaks its rule, in the order of the
models and of the lists, and only where there is none, the first contradiction between the fields
(`Config.Disagrees`).

The texts that have to be nonempty or nonblank have to be free of lone surrogates as well
(`Config.refuses_lone_surrogate`).
-/

namespace StepUp

/-! ## Documents of the declared types -/

namespace Json

def IsText (v : Json) : Prop := ∃ t, v = .str t

def IsNullableText (v : Json) : Prop := v = .null ∨ v.IsText

def IsInteger (v : Json) : Prop := ∃ n, v = .int n

def IsListOf (P : Json → Prop) (v : Json) : Prop := ∃ vs, v = .arr vs ∧ ∀ w ∈ vs, P w

def IsMapOf (P : Json → Prop) (v : Json) : Prop :=
  ∃ entries, v = .obj entries ∧ ∀ e ∈ entries, P e.2

/-- A member that has to be there. -/
def Has (v : Json) (name : Text) (P : Json → Prop) : Prop := ∃ w, v.get? name = some w ∧ P w

/-- A member that may be left out. -/
def MayHave (v : Json) (name : Text) (P : Json → Prop) : Prop := ∀ w, v.get? name = some w → P w

theorem MayHave.of_absent {v : Json} {name : Text} {P : Json → Prop} (h : v.get? name = none) :
    v.MayHave name P := by
  intro w hw
  rw [h] at hw
  cases hw

theorem Has.mayHave {v : Json} {name : Text} {P : Json → Prop} (h : v.Has name P) :
    v.MayHave name P := by
  obtain ⟨w, hw, hP⟩ := h
  intro w' hw'
  rwa [← Option.some.inj (hw.symm.trans hw')]

theorem IsNullableText.accepted {v : Json} (h : v.IsNullableText) :
    ∃ a, checkNullableText v = .ok a := by
  rcases h with rfl | ⟨t, rfl⟩
  · exact ⟨none, rfl⟩
  · exact ⟨some t, rfl⟩

theorem IsMapOf.accepted {v : Json} (h : v.IsMapOf IsText) :
    ∃ a, checkObjectOf checkText v = .ok a := by
  obtain ⟨entries, rfl, htexts⟩ := h
  show ∃ a, Checked.eachEntry checkText entries = .ok a
  induction entries with
  | nil => exact ⟨[], rfl⟩
  | cons e rest ih =>
    obtain ⟨⟨t, ht⟩, hrest⟩ := List.forall_mem_cons.mp htexts
    obtain ⟨ps, hps⟩ := ih hrest
    refine ⟨(e.1, t) :: ps, ?_⟩
    rw [Checked.eachEntry, ht, hps]
    rfl

end Json

structure Method.Typed (v : Json) : Prop where
  object : ∃ entries, v = .obj entries
  name : v.Has "name" Json.IsText
  rank : v.Has "rank" Json.IsInteger

structure ServiceDefinition.Typed (v : Json) : Prop where
  object : ∃ entries, v = .obj entries
  id : v.Has "id" Json.IsText
  serviceId : v.Has "service_id" Json.IsText
  name : v.MayHave "name" Json.IsNullableText
  properties : v.MayHave "properties" (Json.IsMapOf Json.IsText)

structure LoggingConfig.Typed (v : Json) : Prop where
  object : ∃ entries, v = .obj entries
  directory : v.MayHave "log_dir" Json.IsNullableText
  level : v.MayHave "log_level" Json.IsText

/-- A document of which every field that is there has the type that is declared for it. -/
structure Config.Typed (v : Json) : Prop where
  object : ∃ entries, v = .obj entries
  methods : v.MayHave "authentication_methods" (Json.IsListOf Method.Typed)
  defaultMethod : v.MayHave "default_authentication_method" Json.IsNullableText
  parameter : v.MayHave "authn_method_parameter" Json.IsText
  property : v.MayHave "service_method_property" Json.IsText
  principal : v.MayHave "principal_method_attribute" Json.IsNullableText
  selection : v.MayHave "role_selection" Json.IsText
  services : v.MayHave "services" (Json.IsListOf ServiceDefinition.Typed)
  logging : v.MayHave "logging" LoggingConfig.Typed

/-! ## The rules of each model -/

def Method.rules : Json → List RuledField :=
  Json.members [("name", Json.underRule .nonblank), ("rank", Json.underRule .nonnegative)]

def ServiceDefinition.rules : Json → List RuledField :=
  Json.members [("id", Json.underRule .nonempty), ("service_id", Json.underRule .nonempty)]

def LoggingConfig.rules : Json → List RuledField :=
  Json.members [("log_level", Json.underRule (.oneOf ["DEBUG", "INFO", "WARNING", "ERROR"]))]

/-- The fields that are under a rule, in the order in which the model has them. -/
def Config.rules : Json → List RuledField :=
  Json.members
    [("authentication_methods", Json.eachItem Method.rules),
      ("authn_method_parameter", Json.underRule .nonempty),
      ("service_method_property", Json.underRule .nonempty),
      ("role_selection", Json.underRule (.oneOf ["first_match", "highest_rank"])),
      ("services", Json.eachItem ServiceDefinition.rules),
      ("logging", LoggingConfig.rules)]

theorem Method.follows_checkName (t : Text) :
    Checked.Follows (checkName (.str t)) (Json.underRule .nonblank (.str t)) := by
  apply Json.follows_underRule
  · rintro ⟨hunicode, hblank⟩
    refine ⟨t, checkName_eq_ok_iff.mpr ⟨rfl, hunicode, ?_, hblank⟩⟩
    rintro rfl
    cases hblank
  · intro h
    rw [checkName, Json.checkNonempty_str]
    by_cases hunicode : t.Unicode
    · have hblank : t.isBlank = true := by
        by_contra hnonblank
        exact h ⟨hunicode, Bool.eq_false_iff.mpr hnonblank⟩
      by_cases hempty : t = []
      · exact ⟨_, by rw [if_pos hunicode, if_pos hempty]; rfl⟩
      · refine ⟨.rejected "Method name cannot be empty or whitespace-only", ?_⟩
        rw [if_pos hunicode, if_neg hempty]
        exact if_pos hblank
    · exact ⟨_, by rw [if_neg hunicode]; rfl⟩

theorem Method.follows_check {v : Json} (h : Typed v) : Checked.Follows (check v) (rules v) := by
  obtain ⟨entries, rfl⟩ := h.object
  obtain ⟨_, hname, t, rfl⟩ := h.name
  obtain ⟨_, hrank, n, rfl⟩ := h.rank
  have name := Json.follows_required hname (follows_checkName t)
  have rank := Json.follows_required hrank (Json.follows_checkAtLeast n)
  exact (name.map Method.mk).ap_members rank

theorem ServiceDefinition.follows_check {v : Json} (h : Typed v) :
    Checked.Follows (check v) (rules v) := by
  obtain ⟨entries, rfl⟩ := h.object
  obtain ⟨_, hid, s, rfl⟩ := h.id
  obtain ⟨_, hserviceId, t, rfl⟩ := h.serviceId
  have id := Json.follows_required hid (Json.follows_checkNonempty s)
  have serviceId := Json.follows_required hserviceId (Json.follows_checkNonempty t)
  have name := Json.follows_optional_of_ok none fun w hw => (h.name w hw).accepted
  have properties := Json.follows_optional_of_ok [] fun w hw => (h.properties w hw).accepted
  exact (((id.map ServiceDefinition.mk).ap_members serviceId).ap_free name).ap_free properties

theorem LoggingConfig.follows_checkLevel (t : Text) :
    Checked.Follows (Json.checkChoice (levels.map fun l => (l.text, l)) (.str t))
      (Json.underRule (.oneOf ["DEBUG", "INFO", "WARNING", "ERROR"]) (.str t)) :=
  Json.follows_checkChoice (by decide) t

theorem RoleSelection.follows_checkPolicy (t : Text) :
    Checked.Follows (Json.checkChoice (all.map fun s => (s.text, s)) (.str t))
      (Json.underRule (.oneOf ["first_match", "highest_rank"]) (.str t)) :=
  Json.follows_checkChoice (by decide) t

theorem LoggingConfig.follows_check {v : Json} (h : Typed v) :
    Checked.Follows (check v) (rules v) := by
  obtain ⟨entries, rfl⟩ := h.object
  have directory := Json.follows_optional_of_ok none fun w hw => (h.directory w hw).accepted
  have level := Json.follows_optional Level.info fun w hw => by
    obtain ⟨t, rfl⟩ := h.level w hw
    exact follows_checkLevel t
  have make : Checked.Follows _ (Json.members [] (.obj entries)) := directory.map LoggingConfig.mk
  exact make.ap_members level

namespace Config

theorem follows_checkFields {entries : List (Text × Json)} (h : Typed (.obj entries)) :
    Checked.Follows (checkFields entries) (rules (.obj entries)) := by
  have methods := Json.follows_optional [] fun w hw => by
    obtain ⟨vs, rfl, hvs⟩ := h.methods w hw
    exact Json.follows_checkListOf fun v hv => Method.follows_check (hvs v hv)
  have defaultMethod := Json.follows_optional_of_ok none fun w hw => (h.defaultMethod w hw).accepted
  have parameter := Json.follows_optional standard.methodParameter fun w hw => by
    obtain ⟨t, rfl⟩ := h.parameter w hw
    exact Json.follows_checkNonempty t
  have property := Json.follows_optional standard.serviceMethodProperty fun w hw => by
    obtain ⟨t, rfl⟩ := h.property w hw
    exact Json.follows_checkNonempty t
  have principal := Json.follows_optional_of_ok standard.principalMethodAttribute
    fun w hw => (h.principal w hw).accepted
  have selection := Json.follows_optional RoleSelection.firstMatch fun w hw => by
    obtain ⟨t, rfl⟩ := h.selection w hw
    exact RoleSelection.follows_checkPolicy t
  have services := Json.follows_optional [] fun w hw => by
    obtain ⟨vs, rfl, hvs⟩ := h.services w hw
    exact Json.follows_checkListOf fun v hv => ServiceDefinition.follows_check (hvs v hv)
  have logging := Json.follows_optional ({} : LoggingConfig)
    fun w hw => LoggingConfig.follows_check (h.logging w hw)
  exact (((((((methods.map Config.mk).ap_free defaultMethod).ap_members parameter).ap_members
    property).ap_free principal).ap_members selection).ap_members services).ap_members logging

end Config

/-! ## What the rules say in words -/

namespace Json

/-- The items of the list under a name; none where there is no list. -/
def itemsAt (v : Json) (name : Text) : List Json := (v.get? name).toList.flatMap items

/-- The texts that the items of a list have under a name. -/
def textsAt (v : Json) (list name : Text) : List Text :=
  (v.itemsAt list).filterMap fun item => (item.get? name).bind text?

variable {v : Json} {list name t : Text}

theorem bind_text?_eq_some_iff {x : Option Json} : x.bind text? = some t ↔ x = some (.str t) := by
  rcases x with - | w
  · simp
  · cases w <;> simp [text?]

theorem mem_textsAt_iff :
    t ∈ v.textsAt list name ↔ ∃ item ∈ v.itemsAt list, item.get? name = some (.str t) := by
  simp only [textsAt, List.mem_filterMap, bind_text?_eq_some_iff]

theorem forall_get?_iff_of_text {P : Json → Prop} (h : v.MayHave name IsText) :
    (∀ w, v.get? name = some w → P w) ↔ ∀ t, v.get? name = some (.str t) → P (.str t) := by
  constructor
  · intro hP t ht
    exact hP _ ht
  · intro hP w hw
    obtain ⟨t, rfl⟩ := h w hw
    exact hP t hw

theorem MayHave.of_mem_itemsAt {P : Json → Prop} (h : v.MayHave name (IsListOf P)) {w : Json}
    (hw : w ∈ v.itemsAt name) : P w := by
  simp only [itemsAt, List.mem_flatMap, Option.mem_toList] at hw
  obtain ⟨list, hlist, hw⟩ := hw
  obtain ⟨vs, rfl, hvs⟩ := h list hlist
  exact hvs w hw

theorem forall_met_eachItemAt_iff {fields : Json → List RuledField} :
    (∀ w, v.get? name = some w → ∀ f ∈ eachItem fields w, f.Met) ↔
      ∀ item ∈ v.itemsAt name, ∀ f ∈ fields item, f.Met := by
  simp only [forall_met_eachItem_iff, itemsAt, List.forall_mem_flatMap, Option.mem_toList]

end Json

theorem Method.met_rules_iff {v : Json} (h : Typed v) : (∀ f ∈ rules v, f.Met) ↔
    (∀ t, v.get? "name" = some (.str t) → t.Unicode ∧ t.isBlank = false) ∧
      ∀ n, v.get? "rank" = some (.int n) → 0 ≤ n := by
  simp only [rules, Json.forall_met_members_cons_iff, Json.forall_met_members_nil_iff, and_true,
    Json.forall_met_underRule_iff, Json.forall_get?_iff_of_text h.name.mayHave]
  refine and_congr Iff.rfl ?_
  constructor
  · intro hrank n hn
    exact hrank _ hn
  · intro hrank w hw
    obtain ⟨n, rfl⟩ := h.rank.mayHave w hw
    exact hrank n hw

theorem ServiceDefinition.met_rules_iff {v : Json} (h : Typed v) : (∀ f ∈ rules v, f.Met) ↔
    (∀ t, v.get? "id" = some (.str t) → t.Unicode ∧ t ≠ []) ∧
      ∀ t, v.get? "service_id" = some (.str t) → t.Unicode ∧ t ≠ [] := by
  simp only [rules, Json.forall_met_members_cons_iff, Json.forall_met_members_nil_iff, and_true,
    Json.forall_met_underRule_iff, Json.forall_get?_iff_of_text h.id.mayHave,
    Json.forall_get?_iff_of_text h.serviceId.mayHave]
  exact Iff.rfl

theorem LoggingConfig.met_rules_iff {v : Json} (h : Typed v) : (∀ f ∈ rules v, f.Met) ↔
    ∀ t, v.get? "log_level" = some (.str t) →
      t ∈ (["DEBUG", "INFO", "WARNING", "ERROR"] : List Text) := by
  simp only [rules, Json.forall_met_members_cons_iff, Json.forall_met_members_nil_iff, and_true,
    Json.forall_met_underRule_iff, Json.forall_get?_iff_of_text h.level]
  exact Iff.rfl

namespace Config

/-- Each field is filled in as it should be, whatever the others hold. -/
structure Filled (v : Json) : Prop where
  names : ∀ name ∈ v.textsAt "authentication_methods" "name", name.isBlank = false
  ranks : ∀ m ∈ v.itemsAt "authentication_methods", ∀ n, m.get? "rank" = some (.int n) → 0 ≤ n
  parameter : ∀ t, v.get? "authn_method_parameter" = some (.str t) → t ≠ []
  property : ∀ t, v.get? "service_method_property" = some (.str t) → t ≠ []
  selection : ∀ t, v.get? "role_selection" = some (.str t) →
    t ∈ (["first_match", "highest_rank"] : List Text)
  ids : ∀ id ∈ v.textsAt "services" "id", id ≠ []
  globs : ∀ glob ∈ v.textsAt "services" "service_id", glob ≠ []
  level : ∀ l, v.get? "logging" = some l → ∀ t, l.get? "log_level" = some (.str t) →
    t ∈ (["DEBUG", "INFO", "WARNING", "ERROR"] : List Text)

/-- The texts whose characters count have no lone surrogates. -/
structure Spelled (v : Json) : Prop where
  names : ∀ name ∈ v.textsAt "authentication_methods" "name", Text.Unicode name
  parameter : ∀ t, v.get? "authn_method_parameter" = some (.str t) → t.Unicode
  property : ∀ t, v.get? "service_method_property" = some (.str t) → t.Unicode
  ids : ∀ id ∈ v.textsAt "services" "id", Text.Unicode id
  globs : ∀ glob ∈ v.textsAt "services" "service_id", Text.Unicode glob

variable {v : Json}

theorem met_rules_iff (h : Typed v) : (∀ f ∈ rules v, f.Met) ↔ Filled v ∧ Spelled v := by
  simp only [rules, Json.forall_met_members_cons_iff, Json.forall_met_members_nil_iff, and_true,
    Json.forall_met_underRule_iff, Json.forall_met_eachItemAt_iff,
    Json.forall_get?_iff_of_text h.parameter, Json.forall_get?_iff_of_text h.property,
    Json.forall_get?_iff_of_text h.selection]
  constructor
  · rintro ⟨hmethods, hparameter, hproperty, hselection, hservices, hlogging⟩
    have hmethod := fun m hm =>
      (Method.met_rules_iff (h.methods.of_mem_itemsAt hm)).mp (hmethods m hm)
    have hservice := fun d hd =>
      (ServiceDefinition.met_rules_iff (h.services.of_mem_itemsAt hd)).mp (hservices d hd)
    have hname : ∀ t ∈ v.textsAt "authentication_methods" "name",
        Text.Unicode t ∧ t.isBlank = false := by
      intro t ht
      obtain ⟨m, hm, ht⟩ := Json.mem_textsAt_iff.mp ht
      exact (hmethod m hm).1 t ht
    have hid : ∀ t ∈ v.textsAt "services" "id", Text.Unicode t ∧ t ≠ [] := by
      intro t ht
      obtain ⟨d, hd, ht⟩ := Json.mem_textsAt_iff.mp ht
      exact (hservice d hd).1 t ht
    have hglob : ∀ t ∈ v.textsAt "services" "service_id", Text.Unicode t ∧ t ≠ [] := by
      intro t ht
      obtain ⟨d, hd, ht⟩ := Json.mem_textsAt_iff.mp ht
      exact (hservice d hd).2 t ht
    constructor
    · exact {
        names := fun t ht => (hname t ht).2
        ranks := fun m hm => (hmethod m hm).2
        parameter := fun t ht => (hparameter t ht).2
        property := fun t ht => (hproperty t ht).2
        selection := hselection
        ids := fun t ht => (hid t ht).2
        globs := fun t ht => (hglob t ht).2
        level := fun l hl => (LoggingConfig.met_rules_iff (h.logging l hl)).mp (hlogging l hl) }
    · exact {
        names := fun t ht => (hname t ht).1
        parameter := fun t ht => (hparameter t ht).1
        property := fun t ht => (hproperty t ht).1
        ids := fun t ht => (hid t ht).1
        globs := fun t ht => (hglob t ht).1 }
  · rintro ⟨hfilled, hspelled⟩
    refine ⟨?_, fun t ht => ⟨hspelled.parameter t ht, hfilled.parameter t ht⟩,
      fun t ht => ⟨hspelled.property t ht, hfilled.property t ht⟩, hfilled.selection, ?_, ?_⟩
    · intro m hm
      apply (Method.met_rules_iff (h.methods.of_mem_itemsAt hm)).mpr
      refine ⟨fun t ht => ?_, hfilled.ranks m hm⟩
      have hmem := Json.mem_textsAt_iff.mpr ⟨m, hm, ht⟩
      exact ⟨hspelled.names t hmem, hfilled.names t hmem⟩
    · intro d hd
      apply (ServiceDefinition.met_rules_iff (h.services.of_mem_itemsAt hd)).mpr
      refine ⟨fun t ht => ?_, fun t ht => ?_⟩
      · have hmem := Json.mem_textsAt_iff.mpr ⟨d, hd, ht⟩
        exact ⟨hspelled.ids t hmem, hfilled.ids t hmem⟩
      · have hmem := Json.mem_textsAt_iff.mpr ⟨d, hd, ht⟩
        exact ⟨hspelled.globs t hmem, hfilled.globs t hmem⟩
    · intro l hl
      exact (LoggingConfig.met_rules_iff (h.logging l hl)).mpr (hfilled.level l hl)

/-- Every field has a place of its own. -/
theorem distinct_rules (v : Json) : RuledField.Distinct (rules v) := by
  have hmethod : ∀ w, RuledField.Distinct (Method.rules w) := fun w =>
    Json.distinct_members (by decide) <| by simp [Json.distinct_underRule]
  have hservice : ∀ w, RuledField.Distinct (ServiceDefinition.rules w) := fun w =>
    Json.distinct_members (by decide) <| by simp [Json.distinct_underRule]
  have hlogging : ∀ w, RuledField.Distinct (LoggingConfig.rules w) := fun w =>
    Json.distinct_members (by decide) <| by simp [Json.distinct_underRule]
  apply Json.distinct_members (by decide)
  simp [Json.distinct_underRule, Json.distinct_eachItem, hmethod, hservice, hlogging]

end Config

/-! ## Agreement between the fields -/

theorem Method.name_of_check {v : Json} {m : Method} (h : check v = .ok m) :
    v.get? "name" = some (.str m.name) := by
  obtain ⟨entries, rfl, hname, -⟩ := check_eq_ok_iff.mp h
  obtain ⟨w, hw, hcheck⟩ := Json.required_eq_ok hname
  obtain ⟨rfl, -⟩ := checkName_eq_ok_iff.mp hcheck
  exact hw

theorem ServiceDefinition.id_of_check {v : Json} {d : ServiceDefinition} (h : check v = .ok d) :
    v.get? "id" = some (.str d.id) := by
  obtain ⟨entries, rfl, hid, -⟩ := check_eq_ok_iff.mp h
  obtain ⟨w, hw, hcheck⟩ := Json.required_eq_ok hid
  obtain ⟨rfl, -⟩ := Json.checkNonempty_eq_ok_iff.mp hcheck
  exact hw

namespace Json

variable {α : Type} {check : Json → Checked α} {view : α → Text} {name : Text}

theorem filterMap_of_eachFrom (h : ∀ w a, check w = .ok a → w.get? name = some (.str (view a)))
    {vs : List Json} {i : Nat} {as : List α} (has : Checked.eachFrom check i vs = .ok as) :
    (vs.filterMap fun item => (item.get? name).bind text?) = as.map view := by
  induction vs generalizing i as with
  | nil =>
    cases has
    rfl
  | cons v rest ih =>
    obtain ⟨_, tail, hhead, htail, rfl⟩ := Checked.ap_eq_ok_iff.mp has
    obtain ⟨a, ha, rfl⟩ := Checked.map_eq_ok_iff.mp hhead
    have hv := h v a (Checked.within_eq_ok_iff.mp ha)
    simp only [List.filterMap_cons, bind_text?_eq_some_iff.mpr hv, ih htail, List.map_cons]

/-- What a document lists under a name is what the checked elements have. -/
theorem textsAt_of_optional {list : Text} {entries : List (Text × Json)} {as : List α}
    (h : ∀ w a, check w = .ok a → w.get? name = some (.str (view a)))
    (has : optional entries list [] (checkListOf check) = .ok as) :
    (Json.obj entries).textsAt list name = as.map view := by
  rw [optional] at has
  rw [textsAt, itemsAt, get?]
  split at has
  · next w hw =>
    rw [hw]
    cases w with
    | arr vs => simpa [items] using filterMap_of_eachFrom h (Checked.within_eq_ok_iff.mp has)
    | _ => cases has
  · next hnone =>
    cases has
    rw [hnone]
    rfl

end Json

namespace Config

/-- The fields do not contradict each other. -/
structure Agrees (v : Json) : Prop where
  distinct : (v.textsAt "authentication_methods" "name").Nodup
  default_mem : ∀ d, v.get? "default_authentication_method" = some (.str d) →
    d ∈ v.textsAt "authentication_methods" "name"
  services_distinct : (v.textsAt "services" "id").Nodup

/-- The first contradiction between the fields, as it is told. -/
inductive Disagrees (v : Json) : Text → Prop
  | names (h : ¬ (v.textsAt "authentication_methods" "name").Nodup) :
      Disagrees v ("Duplicate authentication method names: "
        ++ quotedList (repeated (v.textsAt "authentication_methods" "name")))
  | defaultMethod {d : Text} (distinct : (v.textsAt "authentication_methods" "name").Nodup)
      (hd : v.get? "default_authentication_method" = some (.str d))
      (h : d ∉ v.textsAt "authentication_methods" "name") :
      Disagrees v ("Default authentication method '" ++ d
        ++ "' is not a configured authentication method")
  | services (distinct : (v.textsAt "authentication_methods" "name").Nodup)
      (default_mem : ∀ d, v.get? "default_authentication_method" = some (.str d) →
        d ∈ v.textsAt "authentication_methods" "name")
      (h : ¬ (v.textsAt "services" "id").Nodup) :
      Disagrees v ("Duplicate service definition ids: "
        ++ quotedList (repeated (v.textsAt "services" "id")))

variable {c : Config} {entries : List (Text × Json)}

theorem FieldsOf.methodNames_eq (h : c.FieldsOf entries) :
    c.methodNames = (Json.obj entries).textsAt "authentication_methods" "name" :=
  (Json.textsAt_of_optional (fun _ _ => Method.name_of_check) h.methods).symm

theorem FieldsOf.serviceIds_eq (h : c.FieldsOf entries) :
    c.serviceIds = (Json.obj entries).textsAt "services" "id" :=
  (Json.textsAt_of_optional (fun _ _ => ServiceDefinition.id_of_check) h.services).symm

theorem FieldsOf.defaultMethod_eq_some_iff (h : c.FieldsOf entries) {d : Text} :
    c.defaultMethod = some d ↔
      (Json.obj entries).get? "default_authentication_method" = some (.str d) := by
  have hdefault := h.defaultMethod
  rw [Json.optional] at hdefault
  rw [Json.get?]
  split at hdefault
  · next w hw =>
    rw [hw]
    have hvalue := Checked.within_eq_ok_iff.mp hdefault
    cases w with
    | null =>
      rw [← Except.ok.inj hvalue]
      simp
    | str t =>
      rw [← Except.ok.inj hvalue]
      simp
    | _ => cases hvalue
  · next hnone =>
    rw [hnone, ← Except.ok.inj hdefault]
    simp

theorem FieldsOf.contradiction?_eq_none_iff (h : c.FieldsOf entries) :
    c.contradiction? = none ↔ Agrees (.obj entries) := by
  rw [Config.contradiction?_eq_none_iff, h.methodNames_eq, h.serviceIds_eq]
  simp only [h.defaultMethod_eq_some_iff]
  exact ⟨fun ⟨h₁, h₂, h₃⟩ => ⟨h₁, h₂, h₃⟩, fun ⟨h₁, h₂, h₃⟩ => ⟨h₁, h₂, h₃⟩⟩

/-- The first contradiction is told, in the order of names, default and services. -/
theorem FieldsOf.disagrees (h : c.FieldsOf entries) (hdisagree : ¬ Agrees (.obj entries)) :
    ∃ reason, c.contradiction? = some (.rejected reason) ∧ Disagrees (.obj entries) reason := by
  unfold contradiction?
  rw [h.methodNames_eq, h.serviceIds_eq]
  by_cases hnames : ((Json.obj entries).textsAt "authentication_methods" "name").Nodup
  · rw [if_neg (by simpa using repeated_eq_nil_iff.mpr hnames)]
    by_cases hdefault : ∀ d, (Json.obj entries).get? "default_authentication_method" =
        some (.str d) → d ∈ (Json.obj entries).textsAt "authentication_methods" "name"
    · have hids : ¬ ((Json.obj entries).textsAt "services" "id").Nodup := fun hids =>
        hdisagree ⟨hnames, hdefault, hids⟩
      have hnone : (c.defaultMethod.filter fun d =>
          !((Json.obj entries).textsAt "authentication_methods" "name").contains d) = none := by
        simp only [Option.filter_eq_none_iff, Bool.not_eq_true', List.contains_iff_mem,
          Bool.not_eq_false]
        exact fun d hd => hdefault d (h.defaultMethod_eq_some_iff.mp hd)
      rw [hnone]
      refine ⟨_, if_pos ?_, .services hnames hdefault hids⟩
      simpa using mt repeated_eq_nil_iff.mp hids
    · push Not at hdefault
      obtain ⟨d, hd, hunknown⟩ := hdefault
      rw [h.defaultMethod_eq_some_iff.mpr hd, Option.filter_some, if_pos (by simpa using hunknown)]
      exact ⟨_, rfl, .defaultMethod hnames hd hunknown⟩
  · refine ⟨_, if_pos ?_, .names hnames⟩
    simpa using mt repeated_eq_nil_iff.mp hnames

/-- Without a field in error, the check turns on the agreement of the fields. -/
theorem check_of_checkFields (hc : checkFields entries = .ok c) :
    check (.obj entries) = match c.contradiction? with
      | some p => .fail p
      | none => .ok c := by
  rw [check, Json.checkModel, hc]
  rfl

theorem check_of_checkFields_error {issues : List Issue} (h : checkFields entries = .error issues) :
    check (.obj entries) = .error issues := by
  rw [check, Json.checkModel, h]
  rfl

/-- A document of the declared types is accepted if and only if its fields are filled in, are
spelled without lone surrogates and agree. Otherwise the errors are those of the fields that break
their rules, in order and one for each, or, if there are none, one error for the document that
tells the first contradiction. -/
theorem accepts_iff_meaningful {v : Json} (h : Typed v) :
    ((∃ c, check v = .ok c) ↔ (Filled v ∧ Spelled v) ∧ Agrees v) ∧
      (¬ (Filled v ∧ Spelled v) → ∃ issues, check v = .error issues ∧
        issues.map Issue.location = RuledField.broken (rules v) ∧
        (issues.map Issue.location).Nodup) ∧
      (Filled v ∧ Spelled v → ¬ Agrees v → ∃ reason, Disagrees v reason ∧
        check v = .error [⟨[], .rejected reason⟩]) := by
  obtain ⟨entries, rfl⟩ := h.object
  have hfollows := follows_checkFields h
  rw [← met_rules_iff h, ← RuledField.broken_eq_nil_iff]
  cases hfields : checkFields entries with
  | error issues =>
    rw [hfields] at hfollows
    obtain ⟨hbroken, hlocations⟩ := hfollows
    have hcheck := check_of_checkFields_error hfields
    refine ⟨?_, fun _ => ⟨issues, hcheck, hlocations, ?_⟩, fun hmet => absurd hmet hbroken⟩
    · simp [hcheck, hbroken]
    · rw [hlocations]
      exact (distinct_rules _).broken
  | ok c =>
    rw [hfields] at hfollows
    have hmet : RuledField.broken (rules (.obj entries)) = [] := hfollows
    have hview := checkFields_eq_ok_iff.mp hfields
    have hcheck := check_of_checkFields hfields
    refine ⟨?_, fun hbroken => absurd hmet hbroken, fun _ hdisagree => ?_⟩
    · rw [← hview.contradiction?_eq_none_iff, hcheck]
      cases c.contradiction? <;> simp [hmet, Checked.fail]
    · obtain ⟨reason, hcontradiction, hreason⟩ := hview.disagrees hdisagree
      rw [hcontradiction] at hcheck
      exact ⟨reason, hreason, hcheck⟩

/-- A document with a blank name, a rank below zero and an empty id. -/
def slips : Json :=
  .obj [("authentication_methods", .arr [.obj [("name", .str "sms"), ("rank", .int 1)],
      .obj [("name", .str " "), ("rank", .int (-1))]]),
    ("services", .arr [.obj [("id", .str ""), ("service_id", .str "app")]])]

theorem typed_slips : Typed slips := by
  have hsms : Method.Typed (.obj [("name", .str "sms"), ("rank", .int 1)]) :=
    ⟨⟨_, rfl⟩, ⟨_, rfl, _, rfl⟩, ⟨_, rfl, _, rfl⟩⟩
  have hblank : Method.Typed (.obj [("name", .str " "), ("rank", .int (-1))]) :=
    ⟨⟨_, rfl⟩, ⟨_, rfl, _, rfl⟩, ⟨_, rfl, _, rfl⟩⟩
  have hservice : ServiceDefinition.Typed (.obj [("id", .str ""), ("service_id", .str "app")]) :=
    ⟨⟨_, rfl⟩, ⟨_, rfl, _, rfl⟩, ⟨_, rfl, _, rfl⟩, .of_absent rfl, .of_absent rfl⟩
  exact {
    object := ⟨_, rfl⟩
    methods := Json.Has.mayHave ⟨_, rfl, _, rfl, by simp [hsms, hblank]⟩
    defaultMethod := .of_absent rfl
    parameter := .of_absent rfl
    property := .of_absent rfl
    principal := .of_absent rfl
    selection := .of_absent rfl
    services := Json.Has.mayHave ⟨_, rfl, _, rfl, by simp [hservice]⟩
    logging := .of_absent rfl }

/-- Each slip is told where it is. -/
theorem accepts_iff_meaningful_slips : Typed slips ∧
    ∃ issues, check slips = .error issues ∧ issues.map Issue.location =
      [[.field "authentication_methods", .index 1, .field "name"],
        [.field "authentication_methods", .index 1, .field "rank"],
        [.field "services", .index 0, .field "id"]] := by
  refine ⟨typed_slips, ?_⟩
  have hunmet : ¬ (Filled slips ∧ Spelled slips) := fun h => by
    have hname := h.1.names " " (by decide)
    exact absurd hname (by decide)
  obtain ⟨issues, hcheck, hlocations, -⟩ := (accepts_iff_meaningful typed_slips).2.1 hunmet
  exact ⟨issues, hcheck, hlocations.trans (by decide)⟩

/-- A name that is a lone surrogate is refused, although each field is filled in and they agree. -/
theorem refuses_lone_surrogate :
    Typed (.obj [("authn_method_parameter", .str [.ofNat 0xD800])]) ∧
      Filled (.obj [("authn_method_parameter", .str [.ofNat 0xD800])]) ∧
      Agrees (.obj [("authn_method_parameter", .str [.ofNat 0xD800])]) ∧
      ¬ ∃ c, check (.obj [("authn_method_parameter", .str [.ofNat 0xD800])]) = .ok c := by
  refine ⟨?_, ?_, ?_, ?_⟩
  · exact {
      object := ⟨_, rfl⟩
      methods := .of_absent rfl
      defaultMethod := .of_absent rfl
      parameter := Json.Has.mayHave ⟨_, rfl, _, rfl⟩
      property := .of_absent rfl
      principal := .of_absent rfl
      selection := .of_absent rfl
      services := .of_absent rfl
      logging := .of_absent rfl }
  · exact {
      names := by decide
      ranks := by rintro m ⟨⟩
      parameter := by
        rintro t ⟨⟩
        decide
      property := by rintro t ⟨⟩
      selection := by rintro t ⟨⟩
      ids := by decide
      globs := by decide
      level := by rintro l ⟨⟩ }
  · exact ⟨by decide, by rintro d ⟨⟩, by decide⟩
  · rintro ⟨c, hc⟩
    cases hc

end Config

end StepUp
