import Mathlib.Data.List.TakeDrop
import StepUp.Proofs.Json.Parsed
import StepUp.Validation.Checked

/-!
# What checks accept

A check of fields succeeds exactly when each field does (`Checked.ap_eq_ok_iff`). The checks of
texts accept a text as it stands; the check of an integer also accepts other forms of it, none of
which denotes an integer beyond the limit of digits (`Json.intInLimit_of_checkInteger`).

`Json.Ensures p check P` says what a check makes sure of for a regular document. It passes from a
check to lists and optional fields, which is how the properties of a field reach every
field of that kind in a document. In the other direction a list whose elements are accepted in
their written form is accepted in its own (`Checked.eachFrom_map`).
-/

namespace StepUp

namespace Checked

variable {α β : Type}

theorem ap_eq_ok_iff {f : Checked (α → β)} {x : Checked α} {b : β} :
    ap f x = .ok b ↔ ∃ g a, f = .ok g ∧ x = .ok a ∧ g a = b := by
  cases f <;> cases x <;> simp [ap]

theorem map_eq_ok_iff {f : α → β} {x : Checked α} {b : β} :
    Except.map f x = .ok b ↔ ∃ a, x = .ok a ∧ f a = b := by
  cases x <;> simp [Except.map]

theorem within_eq_ok_iff {part : LocationPart} {x : Checked α} {a : α} :
    x.within part = .ok a ↔ x = .ok a := by
  cases x <;> simp [within, Except.mapError]

theorem exists_of_mem_eachFrom {check : Json → Checked α} {vs : List Json} {i : Nat}
    {as : List α} (h : eachFrom check i vs = .ok as) {a : α} (ha : a ∈ as) :
    ∃ v ∈ vs, check v = .ok a := by
  induction vs generalizing i as with
  | nil =>
    cases h
    cases ha
  | cons v rest ih =>
    obtain ⟨g, tail, hg, htail, rfl⟩ := ap_eq_ok_iff.mp h
    obtain ⟨head, hhead, rfl⟩ := map_eq_ok_iff.mp hg
    rcases List.mem_cons.mp ha with rfl | ha
    · exact ⟨v, List.mem_cons_self, within_eq_ok_iff.mp hhead⟩
    · obtain ⟨w, hw, hcheck⟩ := ih htail ha
      exact ⟨w, List.mem_cons_of_mem _ hw, hcheck⟩

/-- Elements that are accepted in their written form make up a list that is. -/
theorem eachFrom_map {check : Json → Checked α} {write : α → Json} {as : List α}
    (h : ∀ a ∈ as, check (write a) = .ok a) (i : Nat) :
    eachFrom check i (as.map write) = .ok as := by
  induction as generalizing i with
  | nil => rfl
  | cons a rest ih =>
    obtain ⟨ha, hrest⟩ := List.forall_mem_cons.mp h
    rw [List.map_cons, eachFrom, ha, ih hrest]
    rfl

theorem eachEntry_map {check : Json → Checked α} {write : α → Json} {qs : List (Text × α)}
    (h : ∀ q ∈ qs, check (write q.2) = .ok q.2) :
    eachEntry check (qs.map fun q => (q.1, write q.2)) = .ok qs := by
  induction qs with
  | nil => rfl
  | cons q rest ih =>
    obtain ⟨hq, hrest⟩ := List.forall_mem_cons.mp h
    rw [List.map_cons, eachEntry, hq, ih hrest]
    rfl

/-- The keys of the entries are kept. -/
theorem keys_of_eachEntry {check : Json → Checked α} {entries : List (Text × Json)}
    {qs : List (Text × α)} (h : eachEntry check entries = .ok qs) :
    qs.map Prod.fst = entries.map Prod.fst := by
  induction entries generalizing qs with
  | nil =>
    cases h
    rfl
  | cons e rest ih =>
    obtain ⟨g, tail, hg, htail, rfl⟩ := ap_eq_ok_iff.mp h
    obtain ⟨head, -, rfl⟩ := map_eq_ok_iff.mp hg
    rw [List.map_cons, List.map_cons, ih htail]

end Checked

namespace Json

variable {α : Type}

/-! ## Fields -/

theorem required_eq_ok {check : Json → Checked α} {entries : List (Text × Json)} {name : Text}
    {a : α} (h : required entries name check = .ok a) :
    ∃ v, entries.lookup name = some v ∧ check v = .ok a := by
  have hin := Checked.within_eq_ok_iff.mp h
  split at hin
  · exact ⟨_, ‹_›, hin⟩
  · cases hin

theorem optional_eq_ok {check : Json → Checked α} {entries : List (Text × Json)} {name : Text}
    {default a : α} (h : optional entries name default check = .ok a) :
    a = default ∨ ∃ v, entries.lookup name = some v ∧ check v = .ok a := by
  unfold optional at h
  split at h
  · exact Or.inr ⟨_, ‹_›, Checked.within_eq_ok_iff.mp h⟩
  · cases h
    exact Or.inl rfl

theorem required_of_lookup {check : Json → Checked α} {entries : List (Text × Json)}
    {name : Text} {v : Json} {a : α} (hv : entries.lookup name = some v) (h : check v = .ok a) :
    required entries name check = .ok a := by
  rw [required, hv]
  exact Checked.within_eq_ok_iff.mpr h

theorem optional_of_lookup {check : Json → Checked α} {entries : List (Text × Json)}
    {name : Text} {default : α} {v : Json} {a : α} (hv : entries.lookup name = some v)
    (h : check v = .ok a) : optional entries name default check = .ok a := by
  rw [optional, hv]
  exact Checked.within_eq_ok_iff.mpr h

theorem checkModel_eq_ok {name : Text} {body : List (Text × Json) → Checked α} {v : Json} {a : α}
    (h : checkModel name body v = .ok a) : ∃ entries, v = .obj entries ∧ body entries = .ok a := by
  cases v with
  | obj entries => exact ⟨entries, rfl, h⟩
  | _ => cases h

/-! ## Texts -/

theorem checkNullableText_ofOption (x : Option Text) :
    checkNullableText (ofOption x) = .ok x := by
  cases x <;> rfl

theorem any_isSurrogate_eq (t : Text) : t.any CodePoint.isSurrogate = !decide t.Unicode := by
  rw [Bool.eq_iff_iff, Bool.not_eq_true', decide_eq_false_iff_not]
  simp [Text.Unicode]

theorem checkUnicode_str (t : Text) :
    checkUnicode (.str t) = if t.Unicode then .ok t else .fail .notUnicode := by
  rw [checkUnicode, checkText]
  by_cases h : t.Unicode <;> simp [any_isSurrogate_eq, h, bind, Except.bind, pure, Except.pure]

theorem checkNonempty_str (t : Text) : checkNonempty (.str t) =
    if t.Unicode then if t = [] then .fail (.tooShort 1) else .ok t else .fail .notUnicode := by
  rw [checkNonempty, checkUnicode_str]
  by_cases h : t.Unicode
  · rw [if_pos h, if_pos h]
    cases t <;> rfl
  · rw [if_neg h, if_neg h]
    rfl

theorem checkNonempty_eq_ok_iff {v : Json} {t : Text} :
    checkNonempty v = .ok t ↔ v = .str t ∧ t.Unicode ∧ t ≠ [] := by
  cases v with
  | str s =>
    rw [checkNonempty_str, str.injEq]
    constructor
    · intro h
      split_ifs at h with hs hempty
      · cases h
      · cases h
        exact ⟨rfl, hs, hempty⟩
      · cases h
    · rintro ⟨rfl, ht, hne⟩
      rw [if_pos ht, if_neg hne]
  | _ => exact ⟨nofun, nofun⟩

/-! ## Choices -/

theorem mem_of_checkChoice {choices : List (Text × α)} {v : Json} {a : α}
    (h : checkChoice choices v = .ok a) : a ∈ choices.map Prod.snd := by
  unfold checkChoice at h
  split at h
  · split at h
    · cases h
    · split at h
      · next hlookup =>
        cases h
        obtain ⟨before, after, rfl, -⟩ := List.lookup_eq_some_iff.mp hlookup
        simp
      · cases h
  · cases h

/-! ## Integers -/

theorem isAsciiDigit_of_digitGroups? {t digits : Text} (h : digitGroups? t = some digits) :
    ∀ c ∈ digits, c.isAsciiDigit = true := by
  unfold digitGroups? at h
  dsimp only at h
  split at h
  · next hgroups =>
    cases h
    intro c hc
    obtain ⟨group, hgroup, hc⟩ := List.mem_flatten.mp hc
    have hdigits := List.all_eq_true.mp hgroups group hgroup
    exact List.all_eq_true.mp (Bool.and_eq_true_iff.mp hdigits).2 c hc
  · cases h

theorem isAsciiDigit_of_integralDigits? {t digits : Text} (h : integralDigits? t = some digits) :
    ∀ c ∈ digits, c.isAsciiDigit = true := by
  unfold integralDigits? at h
  split at h
  · exact isAsciiDigit_of_digitGroups? h
  · split at h
    · exact isAsciiDigit_of_digitGroups? h
    · cases h

theorem intInLimit_of_integerOfText {t : Text} {n : Int} (h : integerOfText t = .ok n) :
    IntInLimit n := by
  unfold integerOfText at h
  dsimp only at h
  split at h
  · cases h
  · next digits hdigits =>
    split at h
    · cases h
    · next hlength =>
      cases h
      exact intInLimit_toInt (isAsciiDigit_of_integralDigits? hdigits)
        (Nat.le_of_not_lt hlength) _

/-- An integer of few bits is far within the limit. -/
theorem intInLimit_of_lt {n : Int} (h : n.natAbs < 2 ^ 63) : IntInLimit n := by
  have hten : n.natAbs < 10 ^ 19 := Nat.lt_of_lt_of_le h (by decide)
  exact Nat.le_trans ((Text.length_ofNat_le_iff (by decide)).mpr hten) (by decide)

theorem intInLimit_of_integerOfFloat {x : Binary64} {n : Int} (h : integerOfFloat x = .ok n) :
    IntInLimit n := by
  unfold integerOfFloat at h
  split at h
  · cases h
  · split_ifs at h with hintegral hrange
    · cases h
    · cases h
      simp only [Bool.and_eq_true, decide_eq_true_eq, Nat.pow_eq] at hrange
      exact intInLimit_of_lt (by omega)
    · cases h

theorem intInLimit_of_checkInteger {v : Json} (hv : v.Regular Bounded) {n : Int}
    (h : checkInteger v = .ok n) : IntInLimit n := by
  cases v with
  | int m =>
    cases h
    cases hv with
    | leaf hm => exact hm
  | bool b =>
    cases h
    cases b <;> exact intInLimit_of_lt (by decide)
  | float x => exact intInLimit_of_integerOfFloat h
  | str t =>
    rw [checkInteger] at h
    split at h
    · cases h
    · exact intInLimit_of_integerOfText h
  | _ => cases h

theorem checkAtLeast_eq_ok_iff {minimum : Int} {v : Json} {n : Int} :
    checkAtLeast minimum v = .ok n ↔ checkInteger v = .ok n ∧ minimum ≤ n := by
  rw [checkAtLeast, exceptBind_eq_ok_iff]
  constructor
  · rintro ⟨m, hm, h⟩
    split at h
    · cases h
    · next hle =>
      cases h
      exact ⟨hm, Int.not_lt.mp hle⟩
  · rintro ⟨h, hle⟩
    refine ⟨n, h, ?_⟩
    rw [if_neg (Int.not_lt.mpr hle)]
    rfl

/-! ## From documents to values -/

/-- What a check makes sure of for the documents that a reader returns. -/
def Ensures (check : Json → Checked α) (P : α → Prop) : Prop :=
  ∀ ⦃v : Json⦄ ⦃a : α⦄, v.Regular Bounded → check v = .ok a → P a

theorem ensures_checkNonempty : Ensures checkNonempty fun t => t.Unicode ∧ t ≠ [] :=
  fun _ _ _ h => (checkNonempty_eq_ok_iff.mp h).2

variable {check : Json → Checked α} {P : α → Prop}

theorem ensures_checkObjectOf :
    Ensures (checkObjectOf check) fun qs => (qs.map Prod.fst).Nodup := by
  intro v qs hv h
  obtain ⟨entries, hentries, h⟩ := exceptBind_eq_ok_iff.mp h
  cases v with
  | obj es =>
    cases hentries
    rw [Checked.keys_of_eachEntry h]
    exact hv.distinct
  | _ => cases hentries

theorem Ensures.listOf (h : Ensures check P) :
    Ensures (checkListOf check) fun as => ∀ a ∈ as, P a := by
  intro v as hv has a ha
  cases v with
  | arr items =>
    obtain ⟨w, hw, hcheck⟩ := Checked.exists_of_mem_eachFrom has ha
    exact h (hv.items w hw) hcheck
  | _ => cases has

theorem Ensures.optional (h : Ensures check P) {default : α} (hdefault : P default)
    {entries : List (Text × Json)} (hentries : (Json.obj entries).Regular Bounded) {name : Text}
    {a : α} (ha : optional entries name default check = .ok a) : P a := by
  rcases optional_eq_ok ha with rfl | ⟨v, hv, hcheck⟩
  · exact hdefault
  · exact h (hentries.lookup hv) hcheck

end Json

end StepUp
