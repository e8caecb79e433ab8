import StepUp.Proofs.Pattern.Reader

/-!
# Reading the parts of a pattern

What the readers of quantifiers, escapes and sets yield in front of the texts of the grammar. Each
lemma is about a run that succeeds: bounds that are too large, or a range that is reversed, end the
reading, and nothing is said about them.
-/

namespace StepUp.Pattern

open Reader

variable {p q : Progress} {s t : Text} {c : CodePoint}

/-! ## Quantifiers -/

/-- The digits that come next, those behind a comma, if one follows, or else the same once more,
and what stands behind. -/
def scanBounds (t : Text) : Text × Text × Text :=
  let low := t.takeWhile CodePoint.isAsciiDigit
  match t.dropWhile CodePoint.isAsciiDigit with
  | [] => (low, low, [])
  | c :: u =>
    if c = ',' then (low, u.takeWhile CodePoint.isAsciiDigit, u.dropWhile CodePoint.isAsciiDigit)
    else (low, low, c :: u)

/-- The bound that digits stand for, if there are any. -/
def boundOf (ds : Text) : Option Nat := if ds = [] then none else some (Text.toNat ds)

theorem readBound_digits {ds : Text} {bound : Option Nat} (h : Yields (readBound ds) p bound q) :
    bound = boundOf ds ∧ p = q := by
  rw [readBound] at h
  cases ds with
  | nil =>
    obtain ⟨rfl, rfl⟩ := yields_pure_iff.mp h
    exact ⟨rfl, rfl⟩
  | cons d ds =>
    rw [if_neg (by simp)] at h
    obtain ⟨-, h⟩ := of_yields_check (fun _ _ => not_yields_throw) h
    obtain ⟨-, h⟩ := of_yields_check (fun _ _ => not_yields_throw) h
    obtain ⟨rfl, rfl⟩ := yields_pure_iff.mp h
    exact ⟨rfl, rfl⟩

theorem getD_boundOf (ds : Text) : (boundOf ds).getD 0 = Text.toNat ds := by
  unfold boundOf
  split
  · next h =>
    rw [h]
    rfl
  · rfl

/-- What is read of the bounds before the closing brace is what is scanned. -/
theorem scanBounds_eq {low high : Text} {comma : Bool} {p₁ p₂ : Progress} (hp : p.At t)
    (hlow : Yields (takeWhile CodePoint.isAsciiDigit t.length) p low p₁)
    (hcomma : Yields (accept ',') p₁ comma p₂)
    (hhigh : Yields (if comma = true then takeWhile CodePoint.isAsciiDigit t.length else pure low)
      p₂ high q) :
    ∃ u, scanBounds t = (low, high, u) ∧ q.At u := by
  obtain ⟨rfl, hp₁⟩ := takeWhile_all rfl (Nat.le_refl _) hp hlow
  have hlength := (List.dropWhile_suffix CodePoint.isAsciiDigit (l := t)).length_le
  unfold scanBounds
  rcases accept_cases (by decide) hp₁ hcomma with ⟨rfl, w, hw, hp₂⟩ | ⟨rfl, hnext, rfl⟩
  · rw [hw] at hlength ⊢
    rw [if_pos rfl] at hhigh
    obtain ⟨rfl, hq⟩ := takeWhile_all rfl (Nat.le_of_succ_le hlength) hp₂ hhigh
    exact ⟨_, if_pos rfl, hq⟩
  · rw [if_neg (by decide)] at hhigh
    obtain ⟨rfl, rfl⟩ := yields_pure_iff.mp hhigh
    split
    · next hnil => exact ⟨_, rfl, hnil ▸ hp₁⟩
    · next c w hw =>
      rw [hw] at hnext hp₁
      exact ⟨_, if_neg fun hc => hnext (congrArg some hc), hp₁⟩

/-- Behind an opening brace bounds are read if what is scanned ends in a closing brace, and else
nothing. -/
theorem readQuantifier_brace {bounds : Option (Nat × Option Nat)} {low high u : Text}
    (hp : p.At t) (hscan : scanBounds t = (low, high, u))
    (h : Yields (readQuantifier "\x7b") p bounds q) :
    (t.head? = some (CodePoint.ofChar '\x7d') ∨ u.head? ≠ some (CodePoint.ofChar '\x7d')) ∧
        bounds = none ∧ q.At t ∨
      t.head? ≠ some (CodePoint.ofChar '\x7d') ∧ ∃ v, u = CodePoint.ofChar '\x7d' :: v ∧
        bounds = some (Text.toNat low, boundOf high) ∧ Within (boundOf high) (Text.toNat low) ∧
          q.At v := by
  rw [readQuantifier, if_neg (by decide), if_neg (by decide), if_neg (by decide),
    yields_get_bind_iff, yields_peek_bind_iff, hp.rest] at h
  have hempty := @tokenOf?_eq_some_iff t (CodePoint.ofChar '\x7d') (by decide)
  rcases yields_ite_iff.mp h with ⟨hclose, hread⟩ | ⟨hclose, hread⟩
  · obtain ⟨rfl, rfl⟩ := yields_pure_iff.mp hread
    exact Or.inl ⟨Or.inl (hempty.mp hclose), rfl, hp⟩
  · obtain ⟨low', p₁, hlow, hread⟩ := yields_bind_iff.mp hread
    obtain ⟨comma, p₂, hcomma, hread⟩ := yields_bind_iff.mp hread
    obtain ⟨high', p₃, hhigh, hread⟩ := yields_ite_bind_iff.mp hread
    obtain ⟨u', hscan', hp₃⟩ := scanBounds_eq hp hlow hcomma hhigh
    cases hscan'.symm.trans hscan
    obtain ⟨close, p₄, hclosed, hread⟩ := yields_bind_iff.mp hread
    rcases accept_cases (by decide) hp₃ hclosed with ⟨rfl, v, rfl, hp₄⟩ | ⟨rfl, hnext, rfl⟩
    · refine Or.inr ⟨mt hempty.mpr hclose, v, rfl, ?_⟩
      obtain ⟨least, _, hleast, hread⟩ := yields_bind_iff.mp hread
      obtain ⟨greatest, _, hgreatest, hread⟩ := yields_bind_iff.mp hread
      obtain ⟨rfl, rfl⟩ := readBound_digits hleast
      obtain ⟨rfl, rfl⟩ := readBound_digits hgreatest
      simp only [getD_boundOf] at hread
      revert hread
      split
      · next hnone =>
        intro hread
        obtain ⟨rfl, rfl⟩ := yields_pure_iff.mp hread
        rw [hnone]
        exact ⟨rfl, within_none, hp₄⟩
      · next n hsome =>
        intro hread
        obtain ⟨hle, hread⟩ := of_yields_check (fun _ _ => not_yields_failAt) hread
        obtain ⟨rfl, rfl⟩ := yields_pure_iff.mp hread
        rw [hsome]
        refine ⟨rfl, ?_, hp₄⟩
        rintro _ ⟨⟩
        exact Nat.le_of_not_lt hle
    · simp only [Bool.not_false, if_true, yields_set_bind_iff] at hread
      obtain ⟨rfl, rfl⟩ := yields_pure_iff.mp hread
      exact Or.inl ⟨Or.inr hnext, rfl, hp⟩

theorem Digits.takeWhile_append {ds u : Text} (hds : Digits ds) (hc : c.isAsciiDigit = false) :
    (ds ++ c :: u).takeWhile CodePoint.isAsciiDigit = ds ∧
      (ds ++ c :: u).dropWhile CodePoint.isAsciiDigit = c :: u := by
  rw [List.takeWhile_append_of_pos hds, List.dropWhile_append_of_pos hds]
  simp [hc]

theorem scanBounds_digits {ds u : Text} (hds : Digits ds) :
    scanBounds (ds ++ CodePoint.ofChar '\x7d' :: u) = (ds, ds, CodePoint.ofChar '\x7d' :: u) := by
  obtain ⟨hlow, hrest⟩ := hds.takeWhile_append (c := CodePoint.ofChar '\x7d') (u := u) (by decide)
  simp only [scanBounds, hlow, hrest]
  exact if_neg (by decide)

theorem scanBounds_comma {ds es u : Text} (hds : Digits ds) (hes : Digits es) :
    scanBounds (ds ++ CodePoint.ofChar ',' :: (es ++ CodePoint.ofChar '\x7d' :: u)) =
      (ds, es, CodePoint.ofChar '\x7d' :: u) := by
  obtain ⟨hlow, hrest⟩ := hds.takeWhile_append (c := CodePoint.ofChar ',')
    (u := es ++ CodePoint.ofChar '\x7d' :: u) (by decide)
  obtain ⟨hhigh, hend⟩ := hes.takeWhile_append (c := CodePoint.ofChar '\x7d') (u := u) (by decide)
  simp only [scanBounds, hlow, hrest, if_true, hhigh, hend]

theorem Digits.head_ne {ds u : Text} (hds : Digits ds) (hc : c.isAsciiDigit = false)
    (hu : ds = [] → u.head? ≠ some c) : (ds ++ u).head? ≠ some c := by
  cases ds with
  | nil => exact hu rfl
  | cons d ds =>
    rintro ⟨⟩
    cases hc.symm.trans (hds c List.mem_cons_self)

theorem Braced.scanBounds_append {b v : Text} {least : Nat} {greatest : Option Nat}
    (h : Braced b least greatest) : (b ++ v).head? ≠ some (CodePoint.ofChar '\x7d') ∧
      ∃ low high, scanBounds (b ++ v) = (low, high, CodePoint.ofChar '\x7d' :: v) ∧
        least = Text.toNat low ∧ greatest = boundOf high := by
  have hcomma : CodePoint.ofChar ',' ≠ CodePoint.ofChar '\x7d' := by decide
  cases h with
  | @exactly ds digits present =>
    rw [List.append_assoc]
    exact ⟨digits.head_ne (by decide) (absurd · present), ds, ds, scanBounds_digits digits, rfl,
      (if_neg present).symm⟩
  | @atLeast ds digits =>
    have hnone : Digits [] := fun _ h => absurd h List.not_mem_nil
    rw [List.append_assoc]
    exact ⟨digits.head_ne (by decide) fun _ h => hcomma (Option.some.inj h), ds, [],
      scanBounds_comma digits hnone, rfl, rfl⟩
  | @between ds es digits digits' present =>
    rw [List.append_assoc, List.cons_append, List.append_assoc]
    exact ⟨digits.head_ne (by decide) fun _ h => hcomma (Option.some.inj h), ds, es,
      scanBounds_comma digits digits', rfl, (if_neg present).symm⟩

theorem opens_of_scanBounds {low high v : Text}
    (hhead : t.head? ≠ some (CodePoint.ofChar '\x7d'))
    (h : scanBounds t = (low, high, CodePoint.ofChar '\x7d' :: v)) : Opens t := by
  have digits (u : Text) : Digits (u.takeWhile CodePoint.isAsciiDigit) :=
    List.all_eq_true.mp List.all_takeWhile
  have split (u : Text) := (@List.takeWhile_append_dropWhile _ CodePoint.isAsciiDigit u).symm
  unfold scanBounds at h
  revert h
  split
  · rintro ⟨⟩
  · next c u hrest =>
    have ht := split t
    rw [hrest] at ht
    split
    · next hcomma =>
      subst hcomma
      intro h
      obtain ⟨rfl, rfl, hend⟩ := by simpa only [Prod.mk.injEq] using h
      have hu := split u
      rw [hend] at hu
      rw [hu] at ht
      by_cases hnone : u.takeWhile CodePoint.isAsciiDigit = []
      · refine ⟨_, v, _, _, ?_, .atLeast (digits t)⟩
        rw [hnone] at ht
        rw [List.append_assoc]
        exact ht
      · refine ⟨_, v, _, _, ?_, .between (digits t) (digits u) hnone⟩
        rw [List.append_assoc, List.cons_append, List.append_assoc]
        exact ht
    · rintro ⟨⟩
      refine ⟨_, v, _, _, ?_, .exactly (digits t) fun hnone => hhead ?_⟩
      · rw [List.append_assoc]
        exact ht
      · rw [ht, hnone]
        rfl

/-- A brace that opens no bounds is left alone. -/
theorem readQuantifier_unopened {bounds : Option (Nat × Option Nat)} (hopens : ¬ Opens t)
    (hp : p.At t) (h : Yields (readQuantifier "\x7b") p bounds q) : bounds = none ∧ q.At t := by
  rcases readQuantifier_brace hp rfl h with ⟨-, hnone⟩ | ⟨hhead, v, hu, -⟩
  · exact hnone
  · exact absurd (opens_of_scanBounds hhead (Prod.ext rfl (Prod.ext rfl hu))) hopens

theorem readQuantifier_braced {b : Text} {least : Nat} {greatest : Option Nat}
    {bounds : Option (Nat × Option Nat)} (hb : Braced b least greatest) (hp : p.At (b ++ t))
    (h : Yields (readQuantifier "\x7b") p bounds q) :
    bounds = some (least, greatest) ∧ Within greatest least ∧ q.At t := by
  obtain ⟨hhead, low, high, hscan, rfl, rfl⟩ := hb.scanBounds_append (v := t)
  rcases readQuantifier_brace hp hscan h with ⟨hnone | hnone, -⟩ | ⟨-, v, ⟨⟩, hbounds⟩
  · exact absurd hnone hhead
  · exact absurd rfl hnone
  · exact hbounds

theorem readQuantifier_one {bounds : Option (Nat × Option Nat)} {result : Nat × Option Nat}
    (hresult : readQuantifier [c] = pure (some result)) (hwithin : Within result.2 result.1)
    (hp : p.At t) (h : Yields (readQuantifier [c]) p bounds q) :
    bounds = some result ∧ Within result.2 result.1 ∧ q.At t := by
  rw [hresult] at h
  obtain ⟨rfl, rfl⟩ := yields_pure_iff.mp h
  exact ⟨rfl, hwithin, hp⟩

/-- A quantifier is told by its first code point, and its bounds are read behind that. -/
theorem Quantifier.exists_cons {least : Nat} {greatest : Option Nat}
    (h : Quantifier s least greatest) : ∃ c more, s = c :: more ∧
      (c = '?' ∨ c = '*' ∨ c = '+' ∨ c = '\x7b') ∧
        ∀ {p q bounds t}, p.At (more ++ t) → Yields (readQuantifier [c]) p bounds q →
          bounds = some (least, greatest) ∧ Within greatest least ∧ q.At t := by
  cases h with
  | star => exact ⟨_, [], rfl, by decide, readQuantifier_one rfl within_none⟩
  | plus => exact ⟨_, [], rfl, by decide, readQuantifier_one rfl within_none⟩
  | optional =>
    exact ⟨_, [], rfl, by decide, readQuantifier_one rfl fun _ _ => Nat.zero_le _⟩
  | @braces b _ _ bounds => exact ⟨_, b, rfl, by decide, readQuantifier_braced bounds⟩

/-! ## Escapes -/

section Escapes

variable (letter : c.isAsciiLetter = false) (digit : c.isAsciiDigit = false)

include letter in
theorem ne_letter (x : Char) (hx : (CodePoint.ofChar x).isAsciiLetter = true) :
    c ≠ CodePoint.ofChar x := by
  rintro rfl
  cases letter.symm.trans hx

include letter in
theorem categoryEscape?_eq_none : categoryEscape? c = none := by
  have plain := ne_letter letter
  simp only [categoryEscape?, plain 'd' rfl, plain 'D' rfl, plain 's' rfl, plain 'S' rfl,
    plain 'w' rfl, plain 'W' rfl, if_false]

include letter in
theorem controlEscape?_cases : controlEscape? c = none ∨ controlEscape? c = some c := by
  have plain := ne_letter letter
  simp only [controlEscape?, plain 'a' rfl, plain 'f' rfl, plain 'n' rfl, plain 'r' rfl,
    plain 't' rfl, plain 'v' rfl, if_false]
  by_cases hc : c = '\\' <;> simp [hc]

include letter digit in
theorem commonEscape_eq (token : Text) : commonEscape token c = pure c := by
  have plain := ne_letter letter
  simp [commonEscape, plain 'x' rfl, plain 'u' rfl, plain 'U' rfl, plain 'N' rfl, letter, digit]

include digit in
theorem isOctal_eq_false : isOctal c = false := by
  simp only [CodePoint.isAsciiDigit, isOctal, Bool.and_eq_false_iff, decide_eq_false_iff_not] at *
  omega

include letter digit in
theorem setEscape_eq (token : Text) : setEscape token c = pure (.literal c) := by
  rw [setEscape, if_neg (ne_letter letter 'b' rfl), categoryEscape?_eq_none letter]
  rcases controlEscape?_cases letter with hcontrol | hcontrol
  · simp [hcontrol, isOctal_eq_false digit, commonEscape_eq letter digit]
  · rw [hcontrol]

include letter digit in
theorem readEscape_eq (token : Text) : readEscape {} token c = pure (literal {} c) := by
  have plain := ne_letter letter
  rw [readEscape, if_neg (plain 'A' rfl), if_neg (plain 'Z' rfl), if_neg (plain 'b' rfl),
    if_neg (plain 'B' rfl), categoryEscape?_eq_none letter]
  rcases controlEscape?_cases letter with hcontrol | hcontrol
  · simp [hcontrol, digit, commonEscape_eq letter digit]
  · rw [hcontrol]

end Escapes

/-! ## Sets -/

theorem setMember_eq (h : Spells s c) : setMember s = pure (.literal c) := by
  cases h with
  | plain => rfl
  | escaped letter digit => exact setEscape_eq letter digit _

section Sets

variable {start fuel : Nat} {items more : List SetItem}

theorem setItems_close (hitems : items.isEmpty = false) (hp : p.At ("]" ++ t))
    (h : Yields (setItems start (fuel + 1) items) p more q) : items = more ∧ q.At t := by
  rw [setItems] at h
  obtain ⟨_, p₁, htake, h⟩ := yields_bind_iff.mp h
  obtain ⟨rfl, hp₁⟩ := take_plain (by decide) hp htake
  dsimp only at h
  rw [hitems, if_pos (by decide)] at h
  obtain ⟨rfl, rfl⟩ := yields_pure_iff.mp h
  exact ⟨rfl, hp₁⟩

/-- A member alone, or in front of a hyphen that ends the set or makes a range of it. -/
theorem setItems_member (hs : Spells s c) (place : s = "]" → items.isEmpty = true)
    (hp : p.At (s ++ t)) (h : Yields (setItems start (fuel + 1) items) p more q) :
    t.head? ≠ some (CodePoint.ofChar '-') ∧
        (∃ p', p'.At t ∧ Yields (setItems start fuel (items ++ [.literal c])) p' more q) ∨
      ∃ u, t = CodePoint.ofChar '-' :: u ∧ ∀ {s' u' hi}, Spells s' hi → u = s' ++ u' →
        s' = "]" ∧ more = items ++ [.literal c, .literal '-'] ∧ q.At u' ∨
        s' ≠ "]" ∧ ∃ p', p'.At u' ∧
          Yields (setItems start fuel (items ++ [.range c hi])) p' more q := by
  have hopen : (decide (s = "]") && !items.isEmpty) = false := by
    rw [Bool.and_eq_false_iff, decide_eq_false_iff_not, Bool.not_eq_false', or_iff_not_imp_left,
      not_not]
    exact place
  rw [setItems] at h
  obtain ⟨_, p₁, htake, h⟩ := yields_bind_iff.mp h
  obtain ⟨rfl, hp₁⟩ := take_token hs hp htake
  dsimp only at h
  rw [hopen, if_neg (by decide), setMember_eq hs, pure_bind] at h
  obtain ⟨dash, p₂, hdash, h⟩ := yields_bind_iff.mp h
  rcases accept_cases (by decide) hp₁ hdash with ⟨rfl, u, rfl, hp₂⟩ | ⟨rfl, hhead, rfl⟩
  · refine Or.inr ⟨u, rfl, fun {s' u' hi} hs' hu => ?_⟩
    subst hu
    rw [if_pos rfl] at h
    obtain ⟨_, p₃, htake', h⟩ := yields_bind_iff.mp h
    obtain ⟨rfl, hp₃⟩ := take_token hs' hp₂ htake'
    rcases yields_ite_iff.mp h with ⟨hclose, hdone⟩ | ⟨hinner, hrange⟩
    · obtain ⟨rfl, rfl⟩ := yields_pure_iff.mp hdone
      exact Or.inl ⟨hclose, rfl, hp₃⟩
    · rw [setMember_eq hs', pure_bind] at hrange
      obtain ⟨-, hrange⟩ := of_yields_check (fun _ _ => not_yields_fail) hrange
      exact Or.inr ⟨hinner, p₃, hp₃, hrange⟩
  · rw [if_neg (by decide)] at h
    exact Or.inl ⟨hhead, p₁, hp₁, h⟩

theorem Spells.length_pos (h : Spells s c) : 0 < s.length := by
  cases h <;> exact Nat.succ_pos _

theorem Members.ne_nil {first : Bool} {S : Set CodePoint} (h : Members first s S) : s ≠ [] := by
  cases h with
  | close => exact List.cons_ne_nil _ _
  | one member =>
    exact List.append_ne_nil_of_left_ne_nil (List.ne_nil_of_length_pos member.length_pos) _
  | range => simp
  | hyphen => simp [Text.ofString]

theorem Members.exists_fuel {first : Bool} {S : Set CodePoint} (h : Members first s S)
    (hfuel : s.length ≤ fuel) : ∃ f, fuel = f + 1 :=
  Nat.exists_eq_add_one.mpr (Nat.lt_of_lt_of_le (List.length_pos_of_ne_nil h.ne_nil) hfuel)

theorem Members.head?_append {first : Bool} {S : Set CodePoint} (h : Members first s S) :
    (s ++ t).head? = s.head? := by
  obtain ⟨d, u, rfl⟩ := List.exists_cons_of_ne_nil h.ne_nil
  rfl

theorem isEmpty_concat (item : SetItem) : false = (items ++ [item]).isEmpty := by
  simp

theorem setItems_members {first : Bool} {S : Set CodePoint} (h : Members first s S)
    (hfuel : s.length ≤ fuel) (hfirst : first = items.isEmpty) (hp : p.At (s ++ t))
    (hread : Yields (setItems start fuel items) p more q) :
    (∀ c, more.any (·.includes false c) = true ↔
      items.any (·.includes false c) = true ∨ c ∈ S) ∧ q.At t := by
  obtain ⟨fuel, rfl⟩ := h.exists_fuel hfuel
  induction h generalizing items fuel p with
  | close =>
    obtain ⟨rfl, hq⟩ := setItems_close hfirst.symm hp hread
    exact ⟨fun c => by simp, hq⟩
  | @one first s u c S member place single more ih =>
    rw [List.append_assoc] at hp
    have hlength : u.length ≤ fuel := by
      have hs := member.length_pos
      rw [List.length_append] at hfuel
      omega
    obtain ⟨fuel, rfl⟩ := more.exists_fuel hlength
    rcases setItems_member member (hfirst ▸ place) hp hread with ⟨-, p', hp', hread⟩ | ⟨v, hv, -⟩
    · obtain ⟨hmore, hq⟩ := ih (isEmpty_concat _) hp' fuel hlength hread
      refine ⟨fun d => ?_, hq⟩
      rw [hmore, Set.mem_insert_iff]
      simp [SetItem.includes, or_assoc]
    · rw [← more.head?_append (t := t), hv] at single
      exact absurd rfl single
  | @range first s s' u lo hi S low place high inner more ih =>
    rw [List.append_assoc, List.cons_append, List.append_assoc] at hp
    have hlength : u.length ≤ fuel := by
      rw [List.length_append, List.length_cons, List.length_append] at hfuel
      omega
    obtain ⟨fuel, rfl⟩ := more.exists_fuel hlength
    rcases setItems_member low (hfirst ▸ place) hp hread with ⟨hhead, -⟩ | ⟨v, hv, hrange⟩
    · exact absurd rfl hhead
    · cases hv
      rcases hrange high rfl with ⟨hclose, -⟩ | ⟨-, p', hp', hread⟩
      · exact absurd hclose inner
      · obtain ⟨hmore, hq⟩ := ih (isEmpty_concat _) hp' fuel hlength hread
        refine ⟨fun d => ?_, hq⟩
        rw [hmore, Set.mem_union, Set.mem_ofPred_eq]
        simp [SetItem.includes, or_assoc]
  | @hyphen first s c member place =>
    rw [List.append_assoc] at hp
    rcases setItems_member member (hfirst ▸ place) hp hread with ⟨hhead, -⟩ | ⟨v, hv, hrange⟩
    · exact absurd rfl hhead
    · cases hv
      rcases hrange (.plain (c := CodePoint.ofChar ']') (by decide)) rfl with
        ⟨-, rfl, hq⟩ | ⟨hinner, -⟩
      · refine ⟨fun d => ?_, hq⟩
        simp [SetItem.includes]
      · exact absurd rfl hinner

end Sets

theorem accepts_ofLiteral {negated : Bool} {d : CodePoint} :
    (CharTest.ofLiteral .none negated c).accepts d = ((d == c) != negated) := by
  have hval : d.val = c.val ↔ d = c := by
    cases d
    cases c
    simp
  simp [CharTest.ofLiteral, CharTest.accepts, Folding.isCased, Folding.apply, hval, beq_eq_decide]

theorem accepts_ofSet {ascii negated : Bool} {items : List SetItem} {d : CodePoint} :
    (CharTest.ofSet .none ascii negated items).accepts d =
      (items.any (·.includes ascii d) != negated) := by
  have hcased : ∀ item : SetItem, item.isCased .none = false := by
    rintro (_ | _ | _) <;> rfl
  have hany : items.eraseDups.any (·.includes ascii d) = items.any (·.includes ascii d) := by
    rw [Bool.eq_iff_iff]
    simp only [List.any_eq_true, List.mem_eraseDups]
  rw [← hany]
  unfold CharTest.ofSet
  split
  · next c hone =>
    rw [hone, accepts_ofLiteral]
    simp [SetItem.includes]
  · simp [hcased, CharTest.accepts]

theorem realizes_test {test : CharTest} {S : Set CodePoint}
    (h : ∀ c, test.accepts c = true ↔ c ∈ S) :
    Search.Realizes (Pattern.one test).search (single S) := by
  have hset : {c | test.accepts c = true} = S := Set.ext h
  rw [← hset]
  exact realizes_one test

theorem folding_default : Options.folding {} = .none := rfl

theorem literal_realizes : Search.Realizes (literal {} c).search (single {c}) :=
  realizes_test fun d => by simp [folding_default, accepts_ofLiteral]

theorem notNewline_realizes : Search.Realizes (Pattern.one .notNewline).search
    (single {c | c ≠ CodePoint.ofChar '\n'}) :=
  realizes_test fun c => by
    cases c
    simp [CharTest.accepts, CodePoint.ofChar]

theorem readSet_of_sign {S : Set CodePoint} {r : Pattern} {negated : Bool}
    (h : Members true s S)
    (hsign : ∀ {sign p'}, Yields (accept '^') p sign p' → sign = negated ∧ p'.At (s ++ t))
    (hr : Yields (readSet {}) p r q) :
    Search.Realizes r.search (single {c | c ∈ S ↔ negated = false}) ∧ q.At t := by
  rw [readSet, yields_get_bind_iff] at hr
  obtain ⟨sign, p', haccept, hr⟩ := yields_bind_iff.mp hr
  obtain ⟨rfl, hp'⟩ := hsign haccept
  rw [yields_get_bind_iff] at hr
  obtain ⟨items, p'', hitems, hr⟩ := yields_bind_iff.mp hr
  obtain ⟨rfl, rfl⟩ := yields_pure_iff.mp hr
  have hfuel : s.length ≤ p'.rest.length + 1 := by
    rw [hp'.rest, List.length_append]
    omega
  obtain ⟨hmember, hq⟩ := setItems_members h hfuel rfl hp' hitems
  refine ⟨realizes_test fun c => ?_, hq⟩
  rw [folding_default, accepts_ofSet, Set.mem_ofPred_eq, ← show _ ↔ c ∈ S by simpa using hmember c]
  cases sign <;> simp

theorem readSet_plain {S : Set CodePoint} {r : Pattern} (h : Members true s S)
    (hplain : s.head? ≠ some (CodePoint.ofChar '^')) (hp : p.At (s ++ t))
    (hr : Yields (readSet {}) p r q) : Search.Realizes r.search (single S) ∧ q.At t := by
  have hset : {c | c ∈ S ↔ false = false} = S := by
    ext c
    simp
  rw [← hset]
  refine readSet_of_sign h (fun {sign p'} haccept => ?_) hr
  obtain ⟨rfl, rfl⟩ := accept_other (by decide) hp (by rwa [h.head?_append]) haccept
  exact ⟨rfl, hp⟩

theorem readSet_complement {S : Set CodePoint} {r : Pattern} (h : Members true s S)
    (hp : p.At (CodePoint.ofChar '^' :: (s ++ t)))
    (hr : Yields (readSet {}) p r q) : Search.Realizes r.search (single Sᶜ) ∧ q.At t := by
  have hset : {c | c ∈ S ↔ true = false} = Sᶜ := by
    ext c
    simp
  rw [← hset]
  exact readSet_of_sign h (fun haccept => accept_self (by decide) hp haccept) hr

end StepUp.Pattern
