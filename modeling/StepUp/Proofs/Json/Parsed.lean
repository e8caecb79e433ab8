import Mathlib.Data.List.TakeDrop
import Mathlib.Tactic.SplitIfs
import StepUp.Proofs.Json.Spelling

/-!
# What the reader returns

A value that was read has no key twice in an object and no integer of more digits than are
converted (`Json.regular_of_parse`).
-/

namespace StepUp

theorem exceptBind_eq_ok_iff {ε α β : Type} {x : Except ε α} {f : α → Except ε β} {b : β} :
    (x >>= f) = .ok b ↔ ∃ a, x = .ok a ∧ f a = .ok b := by
  cases x <;> simp [bind, Except.bind]

namespace Text

theorem toNat_lt {digits : Text} (h : ∀ c ∈ digits, c.isAsciiDigit = true) :
    toNat digits < 10 ^ digits.length := by
  have hfold : ∀ (n : Nat) (ds : Text), (∀ c ∈ ds, c.isAsciiDigit = true) →
      ds.foldl (fun n c => 10 * n + (c.val - 0x30)) n < (n + 1) * 10 ^ ds.length := by
    intro n ds
    induction ds generalizing n with
    | nil => simp
    | cons c ds ih =>
      intro hds
      obtain ⟨hc, hds⟩ := List.forall_mem_cons.mp hds
      simp only [CodePoint.isAsciiDigit, Bool.and_eq_true, decide_eq_true_eq] at hc
      calc ds.foldl (fun n c => 10 * n + (c.val - 0x30)) (10 * n + (c.val - 0x30))
          < (10 * n + (c.val - 0x30) + 1) * 10 ^ ds.length := ih _ hds
        _ ≤ ((n + 1) * 10) * 10 ^ ds.length := Nat.mul_le_mul_right _ (by omega)
        _ = (n + 1) * 10 ^ (ds.length + 1) := by rw [Nat.pow_succ, Nat.mul_assoc, Nat.mul_comm 10]
  have hzero := hfold 0 digits h
  rwa [Nat.zero_add, Nat.one_mul] at hzero

end Text

namespace Json

/-- Digits within the limit denote an integer within the limit. -/
theorem intInLimit_toInt {digits : Text} (h : ∀ c ∈ digits, c.isAsciiDigit = true)
    (hlength : digits.length ≤ maxDigits) (negative : Bool) :
    IntInLimit (Text.toInt negative digits) := by
  have habs : (Text.toInt negative digits).natAbs = Text.toNat digits := by
    cases negative with
    | true => exact (Int.natAbs_neg _).trans (Int.natAbs_natCast _)
    | false => exact Int.natAbs_natCast _
  rw [IntInLimit, habs, Text.length_ofNat_le_iff (by decide)]
  exact Nat.lt_of_lt_of_le (Text.toNat_lt h) (Nat.pow_le_pow_right (by decide) hlength)

/-- Leaves as they are read: integers are within the limit. -/
def Bounded : Json → Prop
  | .int n => IntInLimit n
  | .arr _ | .obj _ => False
  | _ => True

theorem Regular.items {items : List Json} (h : (Json.arr items).Regular Bounded) :
    ∀ v ∈ items, v.Regular Bounded := by
  cases h with
  | leaf hleaf => cases hleaf
  | arr hitems => exact hitems

theorem Regular.distinct {entries : List (Text × Json)} (h : (Json.obj entries).Regular Bounded) :
    (entries.map Prod.fst).Nodup := by
  cases h with
  | leaf hleaf => cases hleaf
  | obj hdistinct _ _ => exact hdistinct

theorem Regular.lookup {entries : List (Text × Json)} (h : (Json.obj entries).Regular Bounded)
    {key : Text} {v : Json} (hv : entries.lookup key = some v) : v.Regular Bounded := by
  cases h with
  | leaf hleaf => cases hleaf
  | obj _ _ hentries =>
    obtain ⟨before, after, rfl, -⟩ := List.lookup_eq_some_iff.mp hv
    exact hentries (key, v) (List.mem_append_right _ List.mem_cons_self)

/-! ## Objects -/

theorem keys_putEntry (entries : List (Text × Json)) (k : Text) (v : Json) :
    (putEntry entries k v).map Prod.fst =
      if k ∈ entries.map Prod.fst then entries.map Prod.fst else entries.map Prod.fst ++ [k] := by
  induction entries with
  | nil => rfl
  | cons q rest ih =>
    by_cases hq : q.1 = k
    · simp [putEntry, hq]
    · simp only [putEntry, if_neg hq, List.map_cons, ih, List.mem_cons, Ne.symm hq, false_or]
      split <;> rfl

theorem nodup_putEntry {entries : List (Text × Json)} (h : (entries.map Prod.fst).Nodup)
    (k : Text) (v : Json) : ((putEntry entries k v).map Prod.fst).Nodup := by
  rw [keys_putEntry]
  split
  · exact h
  · next hk =>
    refine List.nodup_append.mpr ⟨h, by simp, fun l hl l' hl' => ?_⟩
    cases List.mem_singleton.mp hl'
    exact ne_of_mem_of_not_mem hl hk

theorem mem_of_mem_putEntry {entries : List (Text × Json)} {k : Text} {v : Json}
    {q : Text × Json} (h : q ∈ putEntry entries k v) : q = (k, v) ∨ q ∈ entries := by
  induction entries with
  | nil => exact Or.inl (List.mem_singleton.mp h)
  | cons r rest ih =>
    rw [putEntry] at h
    split at h
    · next hr =>
      rcases List.mem_cons.mp h with rfl | h
      · exact Or.inl (by rw [← hr])
      · exact Or.inr (List.mem_cons_of_mem _ h)
    · rcases List.mem_cons.mp h with rfl | h
      · exact Or.inr List.mem_cons_self
      · exact (ih h).imp_right (List.mem_cons_of_mem _)

/-- An object of entries whose values are regular is regular, whatever keys repeat. -/
theorem regular_ofEntries {p : Json → Prop} {pairs : List (Text × Json)}
    (hkeys : ∀ k, p (.str k)) (h : ∀ q ∈ pairs, q.2.Regular p) : (ofEntries pairs).Regular p := by
  have hfold : ∀ entries : List (Text × Json), (entries.map Prod.fst).Nodup →
      (∀ q ∈ entries, q.2.Regular p) →
      (Json.obj (pairs.foldl (fun es q => putEntry es q.1 q.2) entries)).Regular p := by
    induction pairs with
    | nil => exact fun entries hdistinct hentries => .obj hdistinct (fun q _ => hkeys q.1) hentries
    | cons q rest ih =>
      intro entries hdistinct hentries
      obtain ⟨hq, hrest⟩ := List.forall_mem_cons.mp h
      refine ih hrest _ (nodup_putEntry hdistinct q.1 q.2) fun r hr => ?_
      rcases mem_of_mem_putEntry hr with rfl | hr
      · exact hq
      · exact hentries r hr
  exact hfold [] List.nodup_nil (List.forall_mem_nil _)

/-! ## Leaves -/

theorem bounded_of_scanLiteral? {t after : Text} {v : Json} (h : scanLiteral? t = some (v, after)) :
    v.Bounded := by
  obtain ⟨⟨word, w⟩, hmem, hfound⟩ := List.exists_of_findSome?_eq_some h
  rw [Option.ite_none_right_eq_some] at hfound
  cases hfound.2
  simp only [literals, List.mem_cons, Prod.mk.injEq, List.not_mem_nil, or_false] at hmem
  rcases hmem with ⟨-, rfl⟩ | ⟨-, rfl⟩ | ⟨-, rfl⟩ | ⟨-, rfl⟩ | ⟨-, rfl⟩ | ⟨-, rfl⟩ <;> trivial

theorem bounded_of_scanNumber {start t after : Text} {negative : Bool} {v : Json}
    (h : scanNumber start negative t = .ok (v, after)) : v.Bounded := by
  unfold scanNumber at h
  split at h
  · cases h
  · next c rest =>
    split at h
    · next hc =>
      have hdigits : ∀ d ∈ (if c = CodePoint.ofChar '0' then ([c], rest)
          else (c :: rest).span CodePoint.isAsciiDigit).1, d.isAsciiDigit = true := by
        split
        · exact List.forall_mem_singleton.mpr hc
        · rw [List.span_eq_takeWhile_dropWhile]
          exact List.all_eq_true.mp List.all_takeWhile
      generalize (if c = CodePoint.ofChar '0' then ([c], rest)
        else (c :: rest).span CodePoint.isAsciiDigit) = found at h hdigits
      dsimp only at h
      split at h
      · split at h
        · cases h
        · next hlength =>
          cases h
          exact intInLimit_toInt hdigits (Nat.le_of_not_lt hlength) negative
      · cases h
        trivial
    · cases h

/-! ## The whole value -/

/-- What one function of the reader returns with some fuel is regular. -/
structure ReadsRegular (fuel : Nat) : Prop where
  value : ∀ {t after v}, scanValue fuel t = .ok (v, after) → v.Regular Bounded
  items : ∀ {t after items}, scanItems fuel t = .ok (items, after) → ∀ v ∈ items, v.Regular Bounded
  entries : ∀ {t after entries}, scanEntries fuel t = .ok (entries, after) →
    ∀ q ∈ entries, q.2.Regular Bounded

theorem regular_of_scanValue {fuel : Nat} (ih : ReadsRegular fuel) {t after : Text} {v : Json}
    (h : scanValue (fuel + 1) t = .ok (v, after)) : v.Regular Bounded := by
  cases t with
  | nil => cases h
  | cons c rest =>
    rw [scanValue] at h
    split at h
    · obtain ⟨⟨body, more⟩, -, hv⟩ := exceptBind_eq_ok_iff.mp h
      cases hv
      exact .leaf trivial
    split at h
    · split at h
      · cases h
      · split at h
        · cases h
          exact .obj List.nodup_nil (List.forall_mem_nil _) (List.forall_mem_nil _)
        · obtain ⟨⟨entries, more⟩, hentries, hv⟩ := exceptBind_eq_ok_iff.mp h
          cases hv
          exact regular_ofEntries (fun _ => trivial) (ih.entries hentries)
    split at h
    · split at h
      · cases h
      · split at h
        · cases h
          exact .arr (List.forall_mem_nil _)
        · obtain ⟨⟨items, more⟩, hitems, hv⟩ := exceptBind_eq_ok_iff.mp h
          cases hv
          exact .arr (ih.items hitems)
    split at h
    · next hfound =>
      cases h
      exact .leaf (bounded_of_scanLiteral? hfound)
    · split at h <;> exact .leaf (bounded_of_scanNumber h)

theorem regular_of_scanItems {fuel : Nat} (ih : ReadsRegular fuel) {t after : Text}
    {items : List Json} (h : scanItems (fuel + 1) t = .ok (items, after)) :
    ∀ v ∈ items, v.Regular Bounded := by
  rw [scanItems] at h
  obtain ⟨⟨v, more⟩, hv, h⟩ := exceptBind_eq_ok_iff.mp h
  have hregular := ih.value hv
  dsimp only at h
  split at h
  · cases h
  · split_ifs at h
    · cases h
      exact List.forall_mem_singleton.mpr hregular
    · obtain ⟨⟨rest, last⟩, hrest, h⟩ := exceptBind_eq_ok_iff.mp h
      cases h
      exact List.forall_mem_cons.mpr ⟨hregular, ih.items hrest⟩
    · cases h

theorem regular_of_scanEntries {fuel : Nat} (ih : ReadsRegular fuel) {t after : Text}
    {entries : List (Text × Json)} (h : scanEntries (fuel + 1) t = .ok (entries, after)) :
    ∀ q ∈ entries, q.2.Regular Bounded := by
  cases t with
  | nil => cases h
  | cons c rest =>
    rw [scanEntries] at h
    split at h
    · cases h
    obtain ⟨⟨key, colon⟩, -, h⟩ := exceptBind_eq_ok_iff.mp h
    dsimp only at h
    split at h
    · cases h
    split at h
    · cases h
    obtain ⟨⟨v, more⟩, hv, h⟩ := exceptBind_eq_ok_iff.mp h
    have hregular := ih.value hv
    dsimp only at h
    split at h
    · cases h
    split at h
    · cases h
      exact List.forall_mem_singleton.mpr hregular
    split at h
    · obtain ⟨⟨others, last⟩, hothers, h⟩ := exceptBind_eq_ok_iff.mp h
      cases h
      exact List.forall_mem_cons.mpr ⟨hregular, ih.entries hothers⟩
    · cases h

theorem readsRegular (fuel : Nat) : ReadsRegular fuel := by
  induction fuel with
  | zero =>
    refine ⟨?_, ?_, ?_⟩ <;>
    · intro t after found h
      cases t <;> cases h
  | succ fuel ih =>
    exact ⟨regular_of_scanValue ih, regular_of_scanItems ih, regular_of_scanEntries ih⟩

/-- **What the reader returns.** -/
theorem regular_of_parse {source : Text} {v : Json} (h : parse source = .ok v) :
    v.Regular Bounded := by
  unfold parse at h
  split at h
  · cases h
  obtain ⟨⟨w, after⟩, hscan, h⟩ := exceptBind_eq_ok_iff.mp h
  dsimp only at h
  split at h
  · cases h
    exact (readsRegular _).value hscan
  · cases h

end Json

end StepUp
