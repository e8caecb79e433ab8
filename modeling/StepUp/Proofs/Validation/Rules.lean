import Mathlib
import StepUp.Proofs.Validation.Checked

/-!
# Rules for the fields of a document

A model lays down rules for the values of some of its fields. `Json.members` makes a table of
such rules into the list of all fields of a document that are under a rule, in the order of the
table and of the lists in the document, each at its own place (`Json.distinct_members`).

`Checked.Follows` says that a check goes by rules: it succeeds when every field meets its rule, and
otherwise reports one issue for each field that does not, in order. What is put together from
checks that go by rules does so too.
-/

namespace StepUp

namespace Json

/-- The value is a text that meets a condition. -/
def TextWith (P : Text → Prop) : Json → Prop
  | .str t => P t
  | _ => False

/-- The value is an integer that meets a condition. -/
def IntegerWith (P : Int → Prop) : Json → Prop
  | .int n => P n
  | _ => False

instance (P : Text → Prop) [DecidablePred P] : (v : Json) → Decidable (v.TextWith P)
  | .str t => inferInstanceAs (Decidable (P t))
  | .null | .bool _ | .int _ | .float _ | .arr _ | .obj _ => .isFalse id

instance (P : Int → Prop) [DecidablePred P] : (v : Json) → Decidable (v.IntegerWith P)
  | .int n => inferInstanceAs (Decidable (P n))
  | .null | .bool _ | .str _ | .float _ | .arr _ | .obj _ => .isFalse id

end Json

/-- What the value of a field has to be. -/
inductive FieldRule where
  | nonempty
  | nonblank
  | nonnegative
  | oneOf (choices : List Text)

/-- Texts that have to be nonempty or nonblank have to be spelled without lone surrogates too. -/
def FieldRule.Meets (rule : FieldRule) (v : Json) : Prop :=
  match rule with
  | .nonempty => v.TextWith fun t => t.Unicode ∧ t ≠ []
  | .nonblank => v.TextWith fun t => t.Unicode ∧ t.isBlank = false
  | .nonnegative => v.IntegerWith fun n => 0 ≤ n
  | .oneOf choices => v.TextWith fun t => t ∈ choices

instance (rule : FieldRule) (v : Json) : Decidable (rule.Meets v) :=
  match rule with
  | .nonempty => inferInstanceAs (Decidable (v.TextWith _))
  | .nonblank => inferInstanceAs (Decidable (v.TextWith _))
  | .nonnegative => inferInstanceAs (Decidable (v.IntegerWith _))
  | .oneOf _ => inferInstanceAs (Decidable (v.TextWith _))

/-- A field under a rule: where it is in the document, and its value. -/
structure RuledField where
  location : List LocationPart := []
  rule : FieldRule
  value : Json

namespace RuledField

def Met (f : RuledField) : Prop := f.rule.Meets f.value

instance (f : RuledField) : Decidable f.Met := inferInstanceAs (Decidable (f.rule.Meets f.value))

def within (part : LocationPart) (f : RuledField) : RuledField :=
  { f with location := part :: f.location }

@[simp] theorem met_within {part : LocationPart} {f : RuledField} : (f.within part).Met ↔ f.Met :=
  Iff.rfl

@[simp] theorem location_within (part : LocationPart) (f : RuledField) :
    (f.within part).location = part :: f.location := rfl

/-- The places of the fields that break their rules. -/
def broken (fields : List RuledField) : List (List LocationPart) :=
  (fields.filter fun f => ¬ f.Met).map location

theorem broken_append (fields more : List RuledField) :
    broken (fields ++ more) = broken fields ++ broken more := by
  simp [broken]

theorem broken_within (part : LocationPart) (fields : List RuledField) :
    broken (fields.map (within part)) = (broken fields).map (part :: ·) := by
  simp [broken, List.filter_map, Function.comp_def]

theorem broken_eq_nil_iff {fields : List RuledField} :
    broken fields = [] ↔ ∀ f ∈ fields, f.Met := by
  simp [broken, List.filter_eq_nil_iff]

/-- No two fields are at the same place. -/
def Distinct (fields : List RuledField) : Prop := (fields.map location).Nodup

theorem Distinct.within {fields : List RuledField} (h : Distinct fields) (part : LocationPart) :
    Distinct (fields.map (within part)) := by
  have hinjective : Function.Injective fun l : List LocationPart => part :: l :=
    List.cons_injective
  simpa [Distinct, List.map_map, Function.comp_def] using h.map hinjective

theorem Distinct.broken {fields : List RuledField} (h : Distinct fields) : (broken fields).Nodup :=
  h.sublist (List.filter_sublist.map location)

/-- Groups of fields under different parts are at different places. -/
theorem distinct_flatMap {α : Type} {groups : List α} {part : α → LocationPart}
    {fields : α → List RuledField} (hparts : (groups.map part).Nodup)
    (h : ∀ g ∈ groups, Distinct (fields g)) :
    Distinct (groups.flatMap fun g => (fields g).map (within (part g))) := by
  rw [Distinct, List.map_flatMap, List.nodup_flatMap]
  constructor
  · intro g hg
    exact (h g hg).within (part g)
  · apply (List.pairwise_map.mp hparts).imp
    intro g g' hne l hl hl'
    obtain ⟨_, hf, rfl⟩ := List.mem_map.mp hl
    obtain ⟨f, -, rfl⟩ := List.mem_map.mp hf
    obtain ⟨_, hf', heq⟩ := List.mem_map.mp hl'
    obtain ⟨f', -, rfl⟩ := List.mem_map.mp hf'
    simp only [location_within, List.cons.injEq] at heq
    exact hne heq.1.symm

end RuledField

/-! ## Tables of rules -/

namespace Json

open RuledField

/-- A value that is itself under a rule. -/
def underRule (rule : FieldRule) (v : Json) : List RuledField := [{ rule := rule, value := v }]

/-- The items of a list. -/
def items : Json → List Json
  | .arr vs => vs
  | _ => []

/-- The fields of the items of a list. -/
def eachItem (fields : Json → List RuledField) (v : Json) : List RuledField :=
  v.items.zipIdx.flatMap fun p => (fields p.1).map (within (.index p.2))

/-- The fields of a document by a table of the names of its members. -/
def members (table : List (Text × (Json → List RuledField))) (v : Json) : List RuledField :=
  table.flatMap fun row => ((v.get? row.1).toList.flatMap row.2).map (within (.field row.1))

variable {table : List (Text × (Json → List RuledField))} {fields : Json → List RuledField}
  {v : Json}

theorem members_append (table more : List (Text × (Json → List RuledField))) (v : Json) :
    members (table ++ more) v = members table v ++ members more v :=
  List.flatMap_append

theorem forall_met_underRule_iff {rule : FieldRule} :
    (∀ f ∈ underRule rule v, f.Met) ↔ rule.Meets v := by
  simp [underRule, Met]

theorem forall_met_eachItem_iff :
    (∀ f ∈ eachItem fields v, f.Met) ↔ ∀ w ∈ v.items, ∀ f ∈ fields w, f.Met := by
  simp only [eachItem, List.forall_mem_flatMap, List.forall_mem_map, met_within]
  constructor
  · intro h w hw
    obtain ⟨i, hi⟩ := List.mem_iff_getElem?.mp hw
    exact h (w, i) (List.mem_zipIdx_iff_getElem?.mpr hi)
  · intro h p hp
    exact h p.1 (List.fst_mem_of_mem_zipIdx hp)

theorem forall_met_members_nil_iff : (∀ f ∈ members [] v, f.Met) ↔ True := by
  simp [members]

theorem forall_met_members_cons_iff {name : Text} :
    (∀ f ∈ members ((name, fields) :: table) v, f.Met) ↔
      (∀ w, v.get? name = some w → ∀ f ∈ fields w, f.Met) ∧ ∀ f ∈ members table v, f.Met := by
  simp only [members, List.flatMap_cons, List.forall_mem_append, List.forall_mem_flatMap,
    List.forall_mem_map, met_within, Option.mem_toList]

theorem distinct_underRule (rule : FieldRule) (v : Json) : Distinct (underRule rule v) :=
  List.nodup_singleton _

theorem distinct_eachItem (h : ∀ w ∈ v.items, Distinct (fields w)) :
    Distinct (eachItem fields v) := by
  apply distinct_flatMap
  · have hsnd : v.items.zipIdx.map Prod.snd = List.range v.items.length := by
      rw [List.zipIdx_map_snd, List.range_eq_range']
    have hindex : Function.Injective LocationPart.index := fun _ _ => LocationPart.index.inj
    have hrange := (List.nodup_range (n := v.items.length)).map hindex
    rwa [← hsnd, List.map_map] at hrange
  · intro p hp
    exact h p.1 (List.fst_mem_of_mem_zipIdx hp)

theorem distinct_members (hnames : (table.map Prod.fst).Nodup)
    (h : ∀ row ∈ table, ∀ w, v.get? row.1 = some w → Distinct (row.2 w)) :
    Distinct (members table v) := by
  apply distinct_flatMap
  · have hfield : Function.Injective LocationPart.field := fun _ _ => LocationPart.field.inj
    simpa [List.map_map, Function.comp_def] using hnames.map hfield
  · intro row hrow
    cases hw : v.get? row.1 with
    | none => exact List.nodup_nil
    | some w => simpa using h row hrow w hw

end Json

/-! ## Checks that go by rules -/

namespace Checked

open RuledField

variable {α β : Type}

/-- The check succeeds if all fields meet their rules, and otherwise reports those that do not. -/
def Follows (x : Checked α) (fields : List RuledField) : Prop :=
  match x with
  | .ok _ => broken fields = []
  | .error issues => broken fields ≠ [] ∧ issues.map Issue.location = broken fields

theorem follows_ok (a : α) : Follows (.ok a) [] := rfl

theorem Follows.map {x : Checked α} {fields : List RuledField} (h : Follows x fields) (f : α → β) :
    Follows (Except.map f x) fields := by
  cases x with
  | ok a => exact h
  | error issues => exact h

theorem Follows.ap {f : Checked (α → β)} {x : Checked α} {fields more : List RuledField}
    (hf : Follows f fields) (hx : Follows x more) :
    Follows (Checked.ap f x) (fields ++ more) := by
  cases f with
  | ok g =>
    have hnone : RuledField.broken fields = [] := hf
    cases x with
    | ok a =>
      have hmore : RuledField.broken more = [] := hx
      simp [Checked.ap, Follows, broken_append, hnone, hmore]
    | error issues =>
      obtain ⟨hne, hissues⟩ := hx
      simpa [Checked.ap, Follows, broken_append, hnone] using ⟨hne, hissues⟩
  | error issues =>
    obtain ⟨hne, hissues⟩ := hf
    cases x with
    | ok a =>
      have hmore : RuledField.broken more = [] := hx
      simpa [Checked.ap, Follows, broken_append, hmore] using ⟨hne, hissues⟩
    | error others =>
      obtain ⟨-, hothers⟩ := hx
      simp [Checked.ap, Follows, broken_append, hne, hissues, hothers]

theorem Follows.ap_members {f : Checked (α → β)} {x : Checked α}
    {table more : List (Text × (Json → List RuledField))} {v : Json}
    (hf : Follows f (Json.members table v)) (hx : Follows x (Json.members more v)) :
    Follows (Checked.ap f x) (Json.members (table ++ more) v) := by
  rw [Json.members_append]
  exact hf.ap hx

/-- A field under no rule adds nothing. -/
theorem Follows.ap_free {f : Checked (α → β)} {x : Checked α} {fields : List RuledField}
    (hf : Follows f fields) (hx : Follows x []) : Follows (Checked.ap f x) fields := by
  simpa using hf.ap hx

theorem Follows.within {x : Checked α} {fields : List RuledField} (h : Follows x fields)
    (part : LocationPart) : Follows (x.within part) (fields.map (RuledField.within part)) := by
  cases x with
  | ok a =>
    have hnone : RuledField.broken fields = [] := h
    simp [Checked.within, Except.mapError, Follows, broken_within, hnone]
  | error issues =>
    obtain ⟨hne, hissues⟩ := h
    have hlocations : (issues.map (Issue.within part)).map Issue.location =
        (issues.map Issue.location).map (part :: ·) := by
      simp [List.map_map, Function.comp_def, Issue.within]
    simp [Checked.within, Except.mapError, Follows, broken_within, hne, hlocations, hissues]

theorem follows_fail (p : Problem) {f : RuledField} (hlocation : f.location = []) (h : ¬ f.Met) :
    Follows (fail p : Checked α) [f] := by
  simp [Follows, fail, broken, h, hlocation]

theorem follows_ok_of_met (a : α) {f : RuledField} (h : f.Met) : Follows (.ok a) [f] := by
  simp [Follows, broken, h]

/-- The check of every element goes by the rules for the fields of each. -/
theorem follows_eachFrom {check : Json → Checked α} {fields : Json → List RuledField}
    {vs : List Json} (h : ∀ v ∈ vs, Follows (check v) (fields v)) (i : Nat) :
    Follows (eachFrom check i vs)
      ((vs.zipIdx i).flatMap fun p => (fields p.1).map (RuledField.within (.index p.2))) := by
  induction vs generalizing i with
  | nil => exact follows_ok []
  | cons v rest ih =>
    obtain ⟨hv, hrest⟩ := List.forall_mem_cons.mp h
    rw [List.zipIdx_cons, List.flatMap_cons]
    exact ((hv.within (.index i)).map List.cons).ap (ih hrest (i + 1))

end Checked

namespace Json

open Checked RuledField

variable {α : Type} {check : Json → Checked α} {fields : Json → List RuledField}
  {entries : List (Text × Json)} {name : Text}

theorem follows_required {v : Json} (hv : entries.lookup name = some v)
    (h : Follows (check v) (fields v)) :
    Follows (required entries name check) (members [(name, fields)] (.obj entries)) := by
  have hmembers : members [(name, fields)] (.obj entries) =
      (fields v).map (RuledField.within (.field name)) := by
    simp [members, get?, hv]
  rw [hmembers, required, hv]
  exact h.within (.field name)

theorem follows_optional (default : α)
    (h : ∀ v, entries.lookup name = some v → Follows (check v) (fields v)) :
    Follows (optional entries name default check) (members [(name, fields)] (.obj entries)) := by
  cases hv : entries.lookup name with
  | none => simp [optional, members, get?, hv, follows_ok]
  | some v =>
    have hmembers : members [(name, fields)] (.obj entries) =
        (fields v).map (RuledField.within (.field name)) := by
      simp [members, get?, hv]
    rw [hmembers, optional, hv]
    exact (h v hv).within (.field name)

/-- A field that is accepted whatever its value is under no rule. -/
theorem follows_optional_of_ok (default : α)
    (h : ∀ v, entries.lookup name = some v → ∃ a, check v = .ok a) :
    Follows (optional entries name default check) [] := by
  cases hv : entries.lookup name with
  | none => simp [optional, hv, follows_ok]
  | some v =>
    obtain ⟨a, ha⟩ := h v hv
    simp [optional, hv, ha, Checked.within, Except.mapError, follows_ok]

theorem follows_checkListOf {vs : List Json} (h : ∀ v ∈ vs, Follows (check v) (fields v)) :
    Follows (checkListOf check (.arr vs)) (eachItem fields (.arr vs)) :=
  follows_eachFrom h 0

/-! ## The rules for single values -/

theorem follows_underRule {rule : FieldRule} {v : Json}
    (hmet : rule.Meets v → ∃ a, check v = .ok a)
    (hbroken : ¬ rule.Meets v → ∃ p, check v = .fail p) :
    Follows (check v) (underRule rule v) := by
  by_cases h : rule.Meets v
  · obtain ⟨a, ha⟩ := hmet h
    rw [ha]
    exact follows_ok_of_met a h
  · obtain ⟨p, hp⟩ := hbroken h
    rw [hp]
    exact follows_fail p rfl h

theorem follows_checkNonempty (t : Text) :
    Follows (checkNonempty (.str t)) (underRule .nonempty (.str t)) := by
  apply follows_underRule
  · rintro ⟨hunicode, hne⟩
    exact ⟨t, checkNonempty_eq_ok_iff.mpr ⟨rfl, hunicode, hne⟩⟩
  · intro h
    rw [checkNonempty_str]
    split_ifs with hunicode hempty
    · exact ⟨_, rfl⟩
    · exact absurd ⟨hunicode, hempty⟩ h
    · exact ⟨_, rfl⟩

theorem follows_checkAtLeast (n : Int) :
    Follows (checkAtLeast 0 (.int n)) (underRule .nonnegative (.int n)) := by
  apply follows_underRule
  · intro h
    exact ⟨n, checkAtLeast_eq_ok_iff.mpr ⟨rfl, h⟩⟩
  · intro h
    have hlt : n < 0 := Int.not_le.mp h
    exact ⟨.tooSmall 0, by simp [checkAtLeast, checkInteger, bind, Except.bind, hlt]⟩

theorem follows_checkChoice {choices : List (Text × α)}
    (hplain : ∀ t ∈ choices.map Prod.fst, t.Unicode) (t : Text) :
    Follows (checkChoice choices (.str t))
      (underRule (.oneOf (choices.map Prod.fst)) (.str t)) := by
  apply follows_underRule
  · intro h
    obtain ⟨choice, hchoice, rfl⟩ := List.mem_map.mp h
    cases hlookup : choices.lookup choice.1 with
    | none => simpa using List.lookup_eq_none_iff.mp hlookup choice hchoice
    | some a => exact ⟨a, by simp [checkChoice, any_isSurrogate_eq, hplain _ h, hlookup]⟩
  · intro h
    have hlookup : choices.lookup t = none := by
      apply List.lookup_eq_none_iff.mpr
      intro choice hchoice
      have hne : t ≠ choice.1 := fun heq => h (List.mem_map.mpr ⟨choice, hchoice, heq.symm⟩)
      simpa using hne
    rw [checkChoice, any_isSurrogate_eq, hlookup]
    by_cases hunicode : t.Unicode
    · exact ⟨_, if_neg (by simp [hunicode])⟩
    · exact ⟨_, if_pos (by simp [hunicode])⟩

end Json

end StepUp
