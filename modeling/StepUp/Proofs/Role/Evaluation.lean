import StepUp.Proofs.Role.Rule

/-!
# What a rule returns

A rule goes through the entries of its attribute once, in their order. `RoleRules.Grants` says what
it returns for them entry by entry: a text that is not blank and that the pattern describes as a
whole grants the method, under the text as it stands, and every other entry is passed over without
a trace. The relation is a function of the entries (`RoleRules.grants_iff`), so that
`RoleRules.evaluate_entrywise` leaves nothing open about the result: its length, its order, its
repetitions and the spelling of each role.
-/

namespace StepUp

/-- The entries of an attribute in order. A value that is no list counts as the only entry of
one. -/
inductive Principal.Lists (u : Principal) (name : Text) : List Json → Prop
  | absent (h : u.attributes.lookup name = none) : Lists u name []
  | several {items : List Json} (h : u.attributes.lookup name = some (.arr items)) :
      Lists u name items
  | single {v : Json} (h : u.attributes.lookup name = some v) (hv : ∀ items, v ≠ .arr items) :
      Lists u name [v]

/-- The texts among the entries that are not blank are the values of the attribute. -/
theorem Principal.Lists.attributeValues_eq {u : Principal} {name : Text} {entries : List Json}
    (h : u.Lists name entries) :
    u.attributeValues name = (entries.filterMap Json.text?).filter fun t => !t.isBlank := by
  cases h with
  | absent h => rw [attributeValues, attributeEntries, h]
  | several h => rw [attributeValues, attributeEntries, h]
  | @single v h hv =>
    cases v with
    | arr items => exact absurd rfl (hv items)
    | _ => simp [attributeValues, attributeEntries, h, Json.text?]

theorem Principal.exists_lists (u : Principal) (name : Text) : ∃ entries, u.Lists name entries := by
  cases h : u.attributes.lookup name with
  | none => exact ⟨_, .absent h⟩
  | some v =>
    by_cases hv : ∃ items, v = .arr items
    · obtain ⟨items, rfl⟩ := hv
      exact ⟨_, .several h⟩
    · exact ⟨_, .single h (not_exists.mp hv)⟩

namespace RoleRules

variable {p : Pattern} {m : Method} {entries : List Json} {gs : List RoleGrant}

/-- The entry is a role that the pattern describes: a text, not blank, and described as a whole. -/
def Counts (p : Pattern) (entry : Json) (role : Text) : Prop :=
  entry = .str role ∧ role.isBlank = false ∧ p.describes role = true

/-- What the entries of an attribute grant, one by one and in their order. -/
inductive Grants (p : Pattern) (m : Method) : List Json → List RoleGrant → Prop
  | nil : Grants p m [] []
  | granted {entry : Json} {role : Text} {rest : List Json} {gs : List RoleGrant}
      (counts : Counts p entry role) (h : Grants p m rest gs) :
      Grants p m (entry :: rest) (⟨m, role⟩ :: gs)
  | passed {entry : Json} {rest : List Json} {gs : List RoleGrant}
      (counts : ∀ role, ¬ Counts p entry role) (h : Grants p m rest gs) :
      Grants p m (entry :: rest) gs

/-- The grants that come of the texts among some entries. -/
def grantsAmong (p : Pattern) (m : Method) (entries : List Json) : List RoleGrant :=
  (((entries.filterMap Json.text?).filter fun t => !t.isBlank).filter p.describes).map (⟨m, ·⟩)

theorem grantsAmong_cons_of_counts {entry : Json} {role : Text} (h : Counts p entry role)
    (rest : List Json) : grantsAmong p m (entry :: rest) = ⟨m, role⟩ :: grantsAmong p m rest := by
  obtain ⟨rfl, hblank, hdescribed⟩ := h
  simp [grantsAmong, Json.text?, hblank, hdescribed]

theorem grantsAmong_cons_of_passed {entry : Json} (h : ∀ role, ¬ Counts p entry role)
    (rest : List Json) : grantsAmong p m (entry :: rest) = grantsAmong p m rest := by
  cases entry with
  | str t =>
    have ht : t.isBlank = true ∨ p.describes t = false := by
      by_contra hcounts
      simp only [not_or, Bool.not_eq_true, Bool.not_eq_false] at hcounts
      exact h t ⟨rfl, hcounts⟩
    rcases ht with hblank | hdescribed
    · simp [grantsAmong, Json.text?, hblank]
    · cases hblank : t.isBlank <;> simp [grantsAmong, Json.text?, hblank, hdescribed]
  | _ => rfl

/-- The relation is the graph of a function. -/
theorem grants_iff : Grants p m entries gs ↔ gs = grantsAmong p m entries := by
  constructor
  · intro h
    induction h with
    | nil => rfl
    | granted counts _ ih => rw [grantsAmong_cons_of_counts counts, ih]
    | passed counts _ ih => rw [grantsAmong_cons_of_passed counts, ih]
  · rintro rfl
    induction entries with
    | nil => exact .nil
    | cons entry rest ih =>
      by_cases h : ∃ role, Counts p entry role
      · obtain ⟨role, hrole⟩ := h
        rw [grantsAmong_cons_of_counts hrole]
        exact .granted hrole ih
      · rw [grantsAmong_cons_of_passed (not_exists.mp h)]
        exact .passed (not_exists.mp h) ih

variable {rules : RoleRules} {d : ServiceDefinition} {rule : RoleRule} {a : Authentication}

theorem grantsOf_eq_grantsAmong (h : a.principal.Lists rule.attributeName entries) :
    grantsOf p m a.principal rule.attributeName = grantsAmong p m entries := by
  rw [grantsOf, h.attributeValues_eq, grantsAmong]

/-- **What a rule returns.** A definition grants nothing unless it names an attribute, a pattern and
a method, none of them empty, and the method is registered. A definition that does, with a pattern
that compiles, returns what the entries of the attribute grant one by one, in their order and with
their repetitions: the registered method for each text that is not blank and that the pattern
describes as a whole, under the text as it stands. No entry of any other shape disturbs the rest. -/
theorem evaluate_entrywise (rules : RoleRules) (d : ServiceDefinition) (a : Authentication) :
    ((∀ rule, ¬ rules.States d rule) → (rules.evaluate a d).grants = .ok []) ∧
      ∀ rule p, rules.States d rule → Pattern.compile rule.pattern = .ok p →
        ∃ entries gs, a.principal.Lists rule.attributeName entries ∧
          (rules.evaluate a d).grants = .ok gs ∧
          ∀ gs', Grants p rule.method entries gs' ↔ gs' = gs := by
  constructor
  · intro hunstated
    obtain ⟨x, hevaluate⟩ := evaluate_of_unstated (a := a) hunstated
    rw [hevaluate]
  · intro rule p hstates hp
    obtain ⟨entries, hentries⟩ := a.principal.exists_lists rule.attributeName
    refine ⟨entries, grantsAmong p rule.method entries, hentries, ?_, fun gs' => grants_iff⟩
    rw [evaluate_of_read hstates hp, grantsOf_eq_grantsAmong hentries]

/-- A repeated role, one with white space around it, and five entries that are passed over. The
definition of a service with an empty pattern grants nothing to the same user. -/
theorem evaluate_entrywise_repeated :
    let sms : Method := ⟨"sms", 1⟩
    let rule : RoleRule := ⟨"groups", " ?ops", sms⟩
    let d (pattern : Text) : ServiceDefinition := ⟨"app", "app", none,
      [("mfa_attribute_name", "groups"), ("mfa_attribute_pattern", pattern),
        ("authn_method", "sms")]⟩
    let rules : RoleRules := ⟨⟨[sms], by decide⟩, "authn_method"⟩
    let ann : Authentication := ⟨⟨"ann", [("groups", .arr [.str "ops", .int 7, .str " ops",
      .str "devops", .null, .str " ", .arr [.str "ops"], .str "ops"])]⟩⟩
    rules.States (d " ?ops") rule ∧
      (rules.evaluate ann (d " ?ops")).grants =
        .ok [⟨sms, "ops"⟩, ⟨sms, " ops"⟩, ⟨sms, "ops"⟩] ∧
      (∀ rule, ¬ rules.States (d []) rule) ∧ (rules.evaluate ann (d [])).grants = .ok [] := by
  intro sms rule d rules ann
  have hstates : rules.States (d " ?ops") rule :=
    ⟨rfl, by decide, rfl, by decide, rfl, by decide, List.mem_singleton_self _⟩
  have hunstated : ∀ rule, ¬ rules.States (d []) rule := by
    intro rule h
    exact h.pattern_ne (Option.some.inj h.pattern).symm
  refine ⟨hstates, ?_, hunstated, (evaluate_entrywise rules (d []) ann).1 hunstated⟩
  have hruns : ((Pattern.compile rule.pattern).toOption.map fun p =>
      (p.describes "ops", p.describes " ops", p.describes "devops")) =
        some (true, true, false) := by decide +kernel
  cases hp : Pattern.compile rule.pattern with
  | error e =>
    rw [hp] at hruns
    cases hruns
  | ok p =>
    rw [hp] at hruns
    simp only [Except.toOption, Option.map_some, Option.some.injEq, Prod.mk.injEq] at hruns
    obtain ⟨hops, hspace, hdevops⟩ := hruns
    obtain ⟨entries, gs, hentries, hgs, hgrants⟩ :=
      (evaluate_entrywise rules (d " ?ops") ann).2 rule p hstates hp
    have hother : ∀ role, ¬ Counts p (.str "devops") role := by
      rintro role ⟨h, -, hdescribed⟩
      cases h
      cases hdevops.symm.trans hdescribed
    have hblank : ∀ role, ¬ Counts p (.str " ") role := by
      rintro role ⟨h, hnonblank, -⟩
      cases h
      cases hnonblank
    cases hentries with
    | absent h => cases h
    | single h hv => exact absurd (Option.some.inj h).symm (hv _)
    | several h =>
      cases h
      rw [hgs]
      refine congrArg Except.ok ((hgrants _).mp ?_).symm
      exact .granted ⟨rfl, rfl, hops⟩ <| .passed nofun <| .granted ⟨rfl, rfl, hspace⟩ <|
        .passed hother <| .passed nofun <| .passed hblank <| .passed nofun <|
        .granted ⟨rfl, rfl, hops⟩ .nil

end RoleRules

end StepUp
