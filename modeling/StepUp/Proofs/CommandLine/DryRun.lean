import Mathlib
import StepUp.CommandLine.DryRun
import StepUp.Proofs.Glob.Language
import StepUp.Proofs.Resolver
import StepUp.Proofs.Session.Selection

/-!
# The login that a dry run makes up

`DryRun.LoggedIn` says who has logged in by the options of a dry run, and `DryRun.Poses` what the
request looks like that is made of them. Attributes are given pair by pair: each pair is split at
its first `=`, and the values of a name are kept together in the order of the arguments
(`DryRun.grouped`). Options that do not go together (`DryRun.Contradictory`) make up no login at
all (`DryRun.exists_authentication?_iff`).
-/

namespace StepUp.DryRun

/-! ## Pairs -/

/-- The argument that gives a name a value. -/
def pair (p : Text × Text) : Text := p.1 ++ CodePoint.ofChar '=' :: p.2

/-- A name that can stand before the first `=` of a pair. -/
def Named (p : Text × Text) : Prop := p.1 ≠ [] ∧ CodePoint.ofChar '=' ∉ p.1

/-- The argument gives no name: it has no `=`, or begins with it. -/
def Malformed (t : Text) : Prop :=
  CodePoint.ofChar '=' ∉ t ∨ t.head? = some (CodePoint.ofChar '=')

instance (t : Text) : Decidable (Malformed t) :=
  inferInstanceAs (Decidable (_ ∨ _))

theorem Named.not_malformed {p : Text × Text} (h : Named p) : ¬ Malformed (pair p) := by
  obtain ⟨name, value⟩ := p
  obtain ⟨hne, habsent⟩ := h
  rintro (hnone | hhead)
  · exact hnone (by simp [pair])
  · cases name with
    | nil => exact hne rfl
    | cons c name =>
      cases hhead
      exact habsent List.mem_cons_self

theorem exists_pair_of_not_malformed {t : Text} (h : ¬ Malformed t) :
    ∃ p, Named p ∧ t = pair p := by
  simp only [Malformed, not_or, not_not] at h
  obtain ⟨hmem, hhead⟩ := h
  obtain ⟨name, value, rfl, habsent⟩ := List.eq_append_cons_of_mem hmem
  refine ⟨(name, value), ⟨?_, habsent⟩, rfl⟩
  rintro rfl
  exact hhead rfl

theorem splitPair_pair {p : Text × Text} (h : Named p) : splitPair (pair p) = .ok p := by
  obtain ⟨name, value⟩ := p
  obtain ⟨hne, habsent⟩ := h
  have hsplit : Text.splitAtFirst (CodePoint.ofChar '=') (pair (name, value)) =
      some (name, value) := Glob.splitAtFirst_eq_some_iff.mpr ⟨habsent, rfl⟩
  obtain ⟨c, name, rfl⟩ := List.exists_cons_of_ne_nil hne
  rw [splitPair, hsplit]

theorem splitPair_of_malformed {t : Text} (h : Malformed t) :
    splitPair t = .error (.malformedAttribute t) := by
  rw [splitPair]
  split
  · next c name value hsplit =>
    obtain ⟨habsent, rfl⟩ := Glob.splitAtFirst_eq_some_iff.mp hsplit
    have hnamed : Named (c :: name, value) := ⟨List.cons_ne_nil c name, habsent⟩
    exact absurd h hnamed.not_malformed
  · rfl

theorem splitPair_eq_ok_iff {t : Text} {p : Text × Text} :
    splitPair t = .ok p ↔ t = pair p ∧ Named p := by
  constructor
  · intro h
    by_cases hbad : Malformed t
    · rw [splitPair_of_malformed hbad] at h
      cases h
    · obtain ⟨q, hq, rfl⟩ := exists_pair_of_not_malformed hbad
      rw [splitPair_pair hq] at h
      cases h
      exact ⟨rfl, hq⟩
  · rintro ⟨rfl, hp⟩
    exact splitPair_pair hp

theorem mapM_splitPair_eq_ok_iff {pairs : List Text} {split : List (Text × Text)} :
    pairs.mapM splitPair = .ok split ↔ pairs = split.map pair ∧ ∀ p ∈ split, Named p := by
  induction pairs generalizing split with
  | nil =>
    rw [List.mapM_nil]
    constructor
    · intro h
      cases h
      exact ⟨rfl, List.forall_mem_nil _⟩
    · rintro ⟨hnil, -⟩
      cases List.map_eq_nil_iff.mp hnil.symm
      rfl
  | cons t rest ih =>
    rw [List.mapM_cons, exceptBind_eq_ok_iff]
    constructor
    · rintro ⟨p, hp, h⟩
      obtain ⟨ps, hps, h⟩ := exceptBind_eq_ok_iff.mp h
      cases h
      obtain ⟨rfl, hnamed⟩ := splitPair_eq_ok_iff.mp hp
      obtain ⟨rfl, hrest⟩ := ih.mp hps
      exact ⟨rfl, List.forall_mem_cons.mpr ⟨hnamed, hrest⟩⟩
    · rintro ⟨hpairs, hnamed⟩
      cases split with
      | nil => cases hpairs
      | cons p ps =>
        cases hpairs
        obtain ⟨hp, hps⟩ := List.forall_mem_cons.mp hnamed
        exact ⟨p, splitPair_pair hp, exceptBind_eq_ok_iff.mpr ⟨ps, ih.mpr ⟨rfl, hps⟩, rfl⟩⟩

/-- Whatever is wrong with pairs, it is one of them that is malformed. -/
theorem mapM_splitPair_eq_error {pairs : List Text} {f : UsageFault}
    (h : pairs.mapM splitPair = .error f) :
    ∃ t ∈ pairs, Malformed t ∧ f = .malformedAttribute t := by
  induction pairs with
  | nil => cases h
  | cons t rest ih =>
    rw [List.mapM_cons] at h
    by_cases hbad : Malformed t
    · rw [splitPair_of_malformed hbad] at h
      cases h
      exact ⟨t, List.mem_cons_self, hbad, rfl⟩
    · obtain ⟨p, hp, rfl⟩ := exists_pair_of_not_malformed hbad
      rw [splitPair_pair hp] at h
      cases hrest : rest.mapM splitPair with
      | ok ps =>
        rw [hrest] at h
        cases h
      | error g =>
        rw [hrest] at h
        cases h
        obtain ⟨u, hu, hmalformed⟩ := ih hrest
        exact ⟨u, List.mem_cons_of_mem _ hu, hmalformed⟩

/-! ## Groups -/

/-- The values of each name, the names in the order in which they are first mentioned. -/
def grouped (split : List (Text × Text)) : List (Text × List Text) :=
  (split.map Prod.fst).eraseDups.map fun name =>
    (name, (split.filter fun p => p.1 = name).map Prod.snd)

theorem nodup_eraseDups (names : List Text) : names.eraseDups.Nodup := by
  cases names with
  | nil => exact List.nodup_nil
  | cons name rest =>
    rw [List.eraseDups_cons, List.nodup_cons]
    refine ⟨?_, nodup_eraseDups (rest.filter fun other => !other == name)⟩
    simp [List.mem_eraseDups]
termination_by names.length
decreasing_by exact Nat.lt_succ_of_le (List.length_filter_le _ _)

/-- The values of other names stay as they are. -/
theorem map_append_if_of_not_mem {names : List Text} {name : Text} (h : name ∉ names)
    (value : Text) (values : Text → List Text) :
    names.map (fun n => (n, values n ++ if n = name then [value] else [])) =
      names.map fun n => (n, values n) := by
  apply List.map_congr_left
  intro n hn
  have hne : n ≠ name := fun heq => h (heq ▸ hn)
  rw [if_neg hne, List.append_nil]

/-- A value is added to the values of its name, which comes last if it is new. -/
theorem addValue_map {names : List Text} (h : names.Nodup) (name value : Text)
    (values : Text → List Text) :
    addValue name value (names.map fun n => (n, values n)) =
      if name ∈ names then names.map fun n => (n, values n ++ if n = name then [value] else [])
      else (names.map fun n => (n, values n)) ++ [(name, [value])] := by
  induction names with
  | nil => rfl
  | cons n rest ih =>
    obtain ⟨hnew, hrest⟩ := List.nodup_cons.mp h
    rw [List.map_cons, addValue]
    by_cases heq : n = name
    · subst heq
      simp [map_append_if_of_not_mem hnew]
    · rw [if_neg heq, ih hrest]
      by_cases hmem : name ∈ rest
      · simp [hmem, heq]
      · simp [hmem, Ne.symm heq]

/-- Adding the pairs one by one groups them. -/
theorem foldl_addValue (split : List (Text × Text)) :
    split.foldl (fun groups p => addValue p.1 p.2 groups) [] = grouped split := by
  induction split using List.reverseRecOn with
  | nil => rfl
  | append_singleton split p ih =>
    have hnames : ((split ++ [p]).map Prod.fst).eraseDups = (split.map Prod.fst).eraseDups ++
        if p.1 ∈ split.map Prod.fst then [] else [p.1] := by
      rw [List.map_append, List.eraseDups_append]
      by_cases hmem : p.1 ∈ split.map Prod.fst <;>
        simp [List.removeAll, List.eraseDups_cons, hmem]
    have hvalues : ∀ name, ((split ++ [p]).filter fun q => q.1 = name).map Prod.snd =
        (split.filter fun q => q.1 = name).map Prod.snd ++ if name = p.1 then [p.2] else [] := by
      intro name
      by_cases hname : name = p.1
      · simp [hname]
      · simp [hname, Ne.symm hname]
    rw [List.foldl_append, ih, List.foldl_cons, List.foldl_nil, grouped, grouped, hnames,
      addValue_map (nodup_eraseDups _)]
    simp only [hvalues, List.mem_eraseDups]
    by_cases hmem : p.1 ∈ split.map Prod.fst
    · simp only [if_pos hmem, List.append_nil]
    · have hfresh : (split.filter fun q => q.1 = p.1).map Prod.snd = [] := by
        rw [List.map_eq_nil_iff, List.filter_eq_nil_iff]
        intro q hq
        have hne : q.1 ≠ p.1 := fun heq => hmem (heq ▸ List.mem_map_of_mem hq)
        simpa using hne
      have hnone : p.1 ∉ (split.map Prod.fst).eraseDups := mt List.mem_eraseDups.mp hmem
      simp only [if_neg hmem, List.map_append, map_append_if_of_not_mem hnone, List.map_cons,
        List.map_nil, hfresh, if_true, List.nil_append]

theorem groupPairs_eq_ok_iff {pairs : List Text} {groups : List (Text × List Text)} :
    groupPairs pairs = .ok groups ↔
      ∃ split, pairs = split.map pair ∧ (∀ p ∈ split, Named p) ∧ groups = grouped split := by
  rw [groupPairs, exceptBind_eq_ok_iff]
  constructor
  · rintro ⟨split, hsplit, h⟩
    cases h
    obtain ⟨hpairs, hnamed⟩ := mapM_splitPair_eq_ok_iff.mp hsplit
    exact ⟨split, hpairs, hnamed, foldl_addValue split⟩
  · rintro ⟨split, hpairs, hnamed, rfl⟩
    refine ⟨split, mapM_splitPair_eq_ok_iff.mpr ⟨hpairs, hnamed⟩, ?_⟩
    exact congrArg Except.ok (foldl_addValue split)

/-! ## The login -/

/-- Who has logged in, if anyone: the principal, whose attributes are the pairs in groups. -/
inductive LoggedIn (d : DryRun) : Option Authentication → Prop
  | nobody (hprincipal : d.principal = none) (hpairs : d.attributes = []) : LoggedIn d none
  | somebody {id : Text} {split : List (Text × Text)} (hprincipal : d.principal = some id)
      (hpairs : d.attributes = split.map pair) (hnamed : ∀ p ∈ split, Named p) :
      LoggedIn d (some ⟨⟨id, (grouped split).map fun g => (g.1, .arr (g.2.map .str))⟩⟩)

/-- The options do not go together: attributes of nobody, or one without a name. -/
def Contradictory (d : DryRun) : Prop :=
  (d.principal = none ∧ d.attributes ≠ []) ∨ ∃ t ∈ d.attributes, Malformed t

variable {d : DryRun} {a : Option Authentication}

theorem authentication?_eq_ok_iff : d.authentication? = .ok a ↔ d.LoggedIn a := by
  rw [authentication?]
  constructor
  · intro h
    split at h
    · next hprincipal =>
      split at h
      · next hempty =>
        cases h
        exact .nobody hprincipal (List.isEmpty_iff.mp hempty)
      · cases h
    · next id hprincipal =>
      obtain ⟨groups, hgroups, h⟩ := exceptBind_eq_ok_iff.mp h
      cases h
      obtain ⟨split, hpairs, hnamed, rfl⟩ := groupPairs_eq_ok_iff.mp hgroups
      exact .somebody hprincipal hpairs hnamed
  · rintro (⟨hprincipal, hpairs⟩ | ⟨hprincipal, hpairs, hnamed⟩)
    · rw [hprincipal, hpairs]
      rfl
    · rw [hprincipal]
      have hgroups := groupPairs_eq_ok_iff.mpr ⟨_, hpairs, hnamed, rfl⟩
      exact exceptBind_eq_ok_iff.mpr ⟨_, hgroups, rfl⟩

/-- What is wrong with options that make up no login. -/
theorem authentication?_eq_error {f : UsageFault} (h : d.authentication? = .error f) :
    (d.principal = none ∧ d.attributes ≠ [] ∧ f = .attributesWithoutPrincipal) ∨
      (d.principal ≠ none ∧ ∃ t ∈ d.attributes, Malformed t ∧ f = .malformedAttribute t) := by
  rw [authentication?] at h
  split at h
  · next hprincipal =>
    split at h
    · cases h
    · next hpairs =>
      cases h
      exact Or.inl ⟨hprincipal, mt List.isEmpty_iff.mpr hpairs, rfl⟩
  · next id hprincipal =>
    right
    refine ⟨by simp [hprincipal], ?_⟩
    cases hpairs : d.attributes.mapM splitPair with
    | ok split =>
      rw [groupPairs, hpairs] at h
      cases h
    | error g =>
      rw [groupPairs, hpairs] at h
      cases h
      exact mapM_splitPair_eq_error hpairs

theorem LoggedIn.not_contradictory (h : d.LoggedIn a) : ¬ d.Contradictory := by
  cases h with
  | nobody hprincipal hpairs =>
    rintro (⟨-, hgiven⟩ | ⟨t, ht, -⟩)
    · exact hgiven hpairs
    · rw [hpairs] at ht
      cases ht
  | somebody hprincipal hpairs hnamed =>
    rintro (⟨hnone, -⟩ | ⟨t, ht, hbad⟩)
    · rw [hprincipal] at hnone
      cases hnone
    · rw [hpairs] at ht
      obtain ⟨p, hp, rfl⟩ := List.mem_map.mp ht
      exact (hnamed p hp).not_malformed hbad

theorem exists_authentication?_iff :
    (∃ a, d.authentication? = .ok a) ↔ ¬ d.Contradictory := by
  constructor
  · rintro ⟨a, ha⟩
    exact (authentication?_eq_ok_iff.mp ha).not_contradictory
  · intro h
    cases ha : d.authentication? with
    | ok a => exact ⟨a, rfl⟩
    | error f =>
      rcases authentication?_eq_error ha with ⟨hprincipal, hpairs, -⟩ | ⟨-, t, ht, hbad, -⟩
      · exact absurd (Or.inl ⟨hprincipal, hpairs⟩) h
      · exact absurd (Or.inr ⟨t, ht, hbad⟩) h

/-! ## The request -/

/-- An option is given, and its value is not empty. -/
def Given (value : Option Text) (t : Text) : Prop := value = some t ∧ t ≠ []

/-- The request has the options for parameters, the method in preference to a service of the same
name, and the ticket of the login in its scope. Nothing was reported for it yet. -/
structure Poses (d : DryRun) (c : Config) (a : Option Authentication) (request : RequestContext) :
    Prop where
  parameter : ∀ name v, request.parameters.lookup name = some v ↔
    (∃ m, Given d.method m ∧ name = c.methodParameter ∧ v = .str m) ∨
      ∃ t, Given d.service t ∧ name = "service" ∧ v = .str t ∧
        ¬ (name = c.methodParameter ∧ ∃ m, Given d.method m)
  scope : ∀ name v, request.flowScope.lookup name = some v ↔
    a ≠ none ∧ name = RequestContext.ticketKey ∧ v = .str ticket
  unmarked : request.marker = false

theorem lookup_parameter {name n : Text} {value : Option Text} {ps : List (Text × Json)}
    {v : Json} : (parameter name value ps).lookup n = some v ↔
      (∃ t, Given value t ∧ n = name ∧ v = .str t) ∨
        (¬ (n = name ∧ ∃ t, Given value t) ∧ ps.lookup n = some v) := by
  rw [parameter]
  cases value with
  | none => simp [Given]
  | some t =>
    by_cases ht : t = []
    · simp [Given, Option.filter, ht]
    · have hkept : (some t).filter (fun v : Text => !v.isEmpty) = some t := by
        simp [Option.filter, ht]
      rw [hkept]
      dsimp only
      rw [Json.putEntry_eq_putNamed, Session.lookup_putNamed]
      by_cases hn : n = name
      · simp [Given, ht, hn, eq_comm]
      · simp [hn]

theorem poses_request (d : DryRun) (c : Config) (a : Option Authentication) (requestId : Text) :
    d.Poses c a (d.request c a requestId) where
  parameter name v := by
    have hservice : ProtocolArguments.cas.serviceParameter = Text.ofString "service" := rfl
    simp only [request, lookup_parameter, hservice, List.lookup_nil, reduceCtorEq, and_false,
      or_false]
    apply or_congr Iff.rfl
    constructor
    · rintro ⟨hother, t, ht, hname, hv⟩
      exact ⟨t, ht, hname, hv, hother⟩
    · rintro ⟨t, ht, hname, hv, hother⟩
      exact ⟨hother, t, ht, hname, hv⟩
  scope name v := by
    cases a with
    | none => simp [request]
    | some u =>
      show [(RequestContext.ticketKey, Json.str ticket)].lookup name = some v ↔ _
      rw [Session.lookup_cons_eq_ite, List.lookup_nil]
      by_cases hname : name = RequestContext.ticketKey
      · simp [hname, eq_comm]
      · simp [hname]
  unmarked := rfl

/-! ## What is asked for -/

variable {c : Config} {request : RequestContext} {name m : Text}

theorem given_of_nonblank {value : Option Text} (h : value = some m) (hm : m.isBlank = false) :
    Given value m := by
  refine ⟨h, ?_⟩
  rintro rfl
  cases hm

/-- A parameter asks for what was given under its name, unless that is blank. -/
theorem Poses.asks_iff (h : d.Poses c a request) : request.Asks name m ↔ m.isBlank = false ∧
    ((d.method = some m ∧ name = c.methodParameter) ∨
      (d.service = some m ∧ name = "service" ∧
        ¬ (name = c.methodParameter ∧ ∃ m, Given d.method m))) := by
  constructor
  · rintro ⟨v, hlookup, -, hdisplay, hm⟩
    refine ⟨hm, ?_⟩
    rcases (h.parameter name v).mp hlookup with ⟨t, ht, hname, rfl⟩ | ⟨t, ht, hname, rfl, hother⟩
    · cases hdisplay
      exact Or.inl ⟨ht.1, hname⟩
    · cases hdisplay
      exact Or.inr ⟨ht.1, hname, hother⟩
  · rintro ⟨hm, ⟨hmethod, hname⟩ | ⟨hservice, hname, hother⟩⟩
    · have hlookup := (h.parameter name (.str m)).mpr
        (Or.inl ⟨m, given_of_nonblank hmethod hm, hname, rfl⟩)
      exact ⟨_, hlookup, nofun, rfl, hm⟩
    · have hlookup := (h.parameter name (.str m)).mpr
        (Or.inr ⟨m, given_of_nonblank hservice hm, hname, rfl, hother⟩)
      exact ⟨_, hlookup, nofun, rfl, hm⟩

end StepUp.DryRun
