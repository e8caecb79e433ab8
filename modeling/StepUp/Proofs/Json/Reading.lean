import Mathlib.Data.List.TakeDrop
import StepUp.Proofs.Json.Escape

/-!
# Spellings are read back

The reader takes a spelling off the front of a text and leaves what stands behind it
(`Spells.scanValue_append`), provided that no numeral at the end of the spelling goes on there
(`Delimits`). The whole text of a value, on one line or on many, is therefore read as that value
(`parse_render`, `parse_renderIndented`).

The calls of the reader are counted by fuel. A spelling of `n` characters needs at most `n` of it,
since each call reads a character before it makes the next.
-/

namespace StepUp.Json

/-! ## Numerals -/

/-- A code point that no numeral goes on with. -/
def EndsNumeral (c : CodePoint) : Prop :=
  c.isAsciiDigit = false ∧ c ≠ CodePoint.ofChar '.' ∧ c ≠ CodePoint.ofChar 'e' ∧
    c ≠ CodePoint.ofChar 'E'

instance {c : CodePoint} : Decidable (EndsNumeral c) := inferInstanceAs (Decidable (_ ∧ _))

/-- A numeral in front of this text ends there. -/
def Delimits (t : Text) : Prop := ∀ c ∈ t.head?, EndsNumeral c

theorem delimits_nil : Delimits [] := by
  intro c hc
  cases hc

theorem delimits_cons {c : CodePoint} (h : EndsNumeral c) (t : Text) : Delimits (c :: t) := by
  intro d hd
  cases hd
  exact h

theorem endsNumeral_of_isJsonSpace {c : CodePoint} (h : isJsonSpace c = true) : EndsNumeral c := by
  have hne : ∀ d : Char, 0x20 < d.toNat → c ≠ CodePoint.ofChar d := by
    rintro d hd rfl
    simp only [isJsonSpace, CodePoint.val_ofChar, Bool.or_eq_true, beq_iff_eq] at h
    omega
  refine ⟨?_, hne '.' (by decide), hne 'e' (by decide), hne 'E' (by decide)⟩
  simp only [isJsonSpace, Bool.or_eq_true, beq_iff_eq] at h
  simp only [CodePoint.isAsciiDigit, Bool.and_eq_false_iff, decide_eq_false_iff_not]
  omega

section Numerals

variable {rest : Text}

theorem scanFraction_of_delimits (h : Delimits rest) : scanFraction rest = ([], rest) := by
  unfold scanFraction
  split
  · next c d more =>
    have hc : c ≠ CodePoint.ofChar '.' := (h c rfl).2.1
    simp [hc]
  · rfl

theorem scanExponent?_of_delimits (h : Delimits rest) : scanExponent? rest = none := by
  cases rest with
  | nil => rfl
  | cons c more =>
    obtain ⟨-, -, hlower, hupper⟩ := h c rfl
    simp [scanExponent?, hlower, hupper]

theorem span_digits {digits : Text} (hdigits : ∀ c ∈ digits, c.isAsciiDigit = true)
    (hrest : Delimits rest) : (digits ++ rest).span CodePoint.isAsciiDigit = (digits, rest) := by
  have hempty : rest.takeWhile CodePoint.isAsciiDigit = [] ∧
      rest.dropWhile CodePoint.isAsciiDigit = rest := by
    cases rest with
    | nil => exact ⟨rfl, rfl⟩
    | cons c more =>
      have hc : c.isAsciiDigit = false := (hrest c rfl).1
      simp [hc]
  rw [List.span_eq_takeWhile_dropWhile, List.takeWhile_append_of_pos hdigits,
    List.dropWhile_append_of_pos hdigits, hempty.1, hempty.2, List.append_nil]

theorem scanNumber_ofNat {n : Nat} (hn : (Text.ofNat n).length ≤ maxDigits)
    (hrest : Delimits rest) (start : Text) (negative : Bool) :
    scanNumber start negative (Text.ofNat n ++ rest) =
      .ok (.int (Text.toInt negative (Text.ofNat n)), rest) := by
  obtain ⟨c, more, hcons, hdigit⟩ := Text.exists_cons_ofNat n
  have hspan : (if c = CodePoint.ofChar '0' then ([c], more ++ rest)
      else (c :: (more ++ rest)).span CodePoint.isAsciiDigit) = (Text.ofNat n, rest) := by
    split
    · next hzero =>
      have hn : n = 0 := Text.eq_zero_of_head_ofNat (by rw [hcons, hzero, List.head?_cons])
      subst hn
      cases hcons
      rfl
    · rw [← List.cons_append, ← hcons]
      exact span_digits (fun d hd => Text.isAsciiDigit_of_mem_ofNat hd) hrest
  rw [hcons, List.cons_append, scanNumber, if_pos hdigit, hspan]
  simp only [scanFraction_of_delimits hrest, scanExponent?_of_delimits hrest,
    if_neg (Nat.not_lt.mpr hn)]
  rw [hcons]

/-- The words that are values have no digits and more than one letter. -/
theorem literals_wordy :
    ∀ p ∈ literals, 2 ≤ p.1.length ∧ ∀ c ∈ p.1, c.isAsciiDigit = false := by
  decide

/-- A text with a digit at its first or second place starts with none of the words. -/
theorem scanLiteral?_eq_none {t : Text} {c : CodePoint} {i : Nat} (hi : i < 2)
    (ht : t[i]? = some c) (hc : c.isAsciiDigit = true) : scanLiteral? t = none := by
  refine List.findSome?_eq_none_iff.mpr fun p hp => if_neg fun hprefix => ?_
  obtain ⟨hlength, hwordy⟩ := literals_wordy p hp
  obtain ⟨more, rfl⟩ := List.isPrefixOf_iff_prefix.mp hprefix
  rw [List.getElem?_append_left (by omega)] at ht
  exact Bool.noConfusion ((hwordy c (List.mem_of_getElem? ht)).symm.trans hc)

theorem scanValue_digit {c : CodePoint} (hc : c.isAsciiDigit = true) (fuel : Nat) :
    scanValue (fuel + 1) (c :: rest) = scanNumber (c :: rest) false (c :: rest) := by
  have hne : ∀ d : Char, (CodePoint.ofChar d).isAsciiDigit = false → c ≠ CodePoint.ofChar d := by
    rintro d hd rfl
    exact Bool.noConfusion (hd.symm.trans hc)
  rw [scanValue, if_neg (hne '"' rfl), if_neg (hne '\x7b' rfl), if_neg (hne '[' rfl),
    scanLiteral?_eq_none (show 0 < 2 by decide) rfl hc]
  exact if_neg (hne '-' rfl)

theorem scanValue_minus {c : CodePoint} (hc : c.isAsciiDigit = true) (fuel : Nat) :
    scanValue (fuel + 1) (CodePoint.ofChar '-' :: c :: rest) =
      scanNumber (CodePoint.ofChar '-' :: c :: rest) true (c :: rest) := by
  rw [scanValue, if_neg (by decide), if_neg (by decide), if_neg (by decide),
    scanLiteral?_eq_none (show 1 < 2 by decide) rfl hc]
  rfl

/-- An integer is read from its numeral. -/
theorem scanValue_ofInt {n : Int} (hn : IntInLimit n) (hrest : Delimits rest) (fuel : Nat) :
    scanValue (fuel + 1) (Text.ofInt n ++ rest) = .ok (.int n, rest) := by
  cases n with
  | ofNat k =>
    obtain ⟨c, more, hcons, hc⟩ := Text.exists_cons_ofNat k
    have hscan := scanNumber_ofNat (n := k) hn hrest (Text.ofNat k ++ rest) false
    rw [Text.toInt, if_neg Bool.false_ne_true, Text.toNat_ofNat, hcons, List.cons_append] at hscan
    rw [Text.ofInt, hcons, List.cons_append, scanValue_digit hc, hscan]
    rfl
  | negSucc k =>
    obtain ⟨c, more, hcons, hc⟩ := Text.exists_cons_ofNat (k + 1)
    have hscan := scanNumber_ofNat (n := k + 1) hn hrest
      (CodePoint.ofChar '-' :: (Text.ofNat (k + 1) ++ rest)) true
    rw [Text.toInt, if_pos rfl, Text.toNat_ofNat, hcons, List.cons_append] at hscan
    rw [Text.ofInt, hcons, List.cons_append, List.cons_append, scanValue_minus hc, hscan]
    rfl

end Numerals

/-! ## Values -/

section Blanks

variable {gap t : Text}

theorem skipSpace_gap (hgap : ∀ c ∈ gap, isJsonSpace c = true) (t : Text) :
    skipSpace (gap ++ t) = skipSpace t :=
  List.dropWhile_append_of_pos hgap

theorem skipSpace_cons {c : CodePoint} (hc : isJsonSpace c = false) (t : Text) :
    skipSpace (c :: t) = c :: t :=
  List.dropWhile_cons_of_neg (Bool.eq_false_iff.mp hc)

theorem delimits_gap (hgap : ∀ c ∈ gap, isJsonSpace c = true) (ht : Delimits t) :
    Delimits (gap ++ t) := by
  cases gap with
  | nil => exact ht
  | cons c more => exact delimits_cons (endsNumeral_of_isJsonSpace (hgap c List.mem_cons_self)) _

end Blanks

/-! ### One step of the reader -/

section Steps

variable {fuel : Nat} {t after : Text}

theorem scanValue_quote {body : Text} (h : ∀ start, scanString start t = .ok (body, after)) :
    scanValue (fuel + 1) (CodePoint.ofChar '"' :: t) = .ok (.str body, after) := by
  rw [scanValue, if_pos rfl, h]
  rfl

theorem scanValue_bracket {c : CodePoint} {more : Text} {items : List Json}
    (hskip : skipSpace t = c :: more) (hc : c ≠ CodePoint.ofChar ']')
    (h : scanItems fuel (skipSpace t) = .ok (items, after)) :
    scanValue (fuel + 1) (CodePoint.ofChar '[' :: t) = .ok (.arr items, after) := by
  rw [hskip] at h
  rw [scanValue, if_neg (by decide), if_neg (by decide), if_pos rfl, hskip]
  simp only [if_neg hc, h]
  rfl

theorem scanValue_brace {more : Text} {entries : List (Text × Json)}
    (hskip : skipSpace t = CodePoint.ofChar '"' :: more)
    (h : scanEntries fuel (skipSpace t) = .ok (entries, after)) :
    scanValue (fuel + 1) (CodePoint.ofChar '\x7b' :: t) = .ok (ofEntries entries, after) := by
  rw [hskip] at h
  rw [scanValue, if_neg (by decide), if_pos rfl, hskip]
  simp only [if_neg (show CodePoint.ofChar '"' ≠ CodePoint.ofChar '\x7d' by decide), h]
  rfl

theorem scanItems_last {v : Json} {more : Text} (hv : scanValue fuel t = .ok (v, after))
    (hskip : skipSpace after = CodePoint.ofChar ']' :: more) :
    scanItems (fuel + 1) t = .ok ([v], more) := by
  rw [scanItems, hv]
  simp only [bind, Except.bind, hskip, if_true]
  rfl

theorem scanItems_cons {v : Json} {items : List Json} {more rest : Text}
    (hv : scanValue fuel t = .ok (v, after))
    (hskip : skipSpace after = CodePoint.ofChar ',' :: more)
    (h : scanItems fuel (skipSpace more) = .ok (items, rest)) :
    scanItems (fuel + 1) t = .ok (v :: items, rest) := by
  rw [scanItems, hv]
  simp only [bind, Except.bind, hskip,
    if_neg (show CodePoint.ofChar ',' ≠ CodePoint.ofChar ']' by decide), if_true, h]
  rfl

theorem scanEntries_last {k colon value more : Text} {v : Json}
    (hk : ∀ start, scanString start t = .ok (k, colon))
    (hcolon : skipSpace colon = CodePoint.ofChar ':' :: value)
    (hv : scanValue fuel (skipSpace value) = .ok (v, after))
    (hskip : skipSpace after = CodePoint.ofChar '\x7d' :: more) :
    scanEntries (fuel + 1) (CodePoint.ofChar '"' :: t) = .ok ([(k, v)], more) := by
  rw [scanEntries, if_neg (by simp), hk]
  simp only [bind, Except.bind, hcolon, ne_eq, not_true_eq_false, if_false, hv, hskip, if_true]
  rfl

theorem scanEntries_cons {k colon value more rest : Text} {v : Json}
    {entries : List (Text × Json)} (hk : ∀ start, scanString start t = .ok (k, colon))
    (hcolon : skipSpace colon = CodePoint.ofChar ':' :: value)
    (hv : scanValue fuel (skipSpace value) = .ok (v, after))
    (hskip : skipSpace after = CodePoint.ofChar ',' :: more)
    (h : scanEntries fuel (skipSpace more) = .ok (entries, rest)) :
    scanEntries (fuel + 1) (CodePoint.ofChar '"' :: t) = .ok ((k, v) :: entries, rest) := by
  rw [scanEntries, if_neg (by simp), hk]
  simp only [bind, Except.bind, hcolon, ne_eq, not_true_eq_false, if_false, hv, hskip, if_true,
    if_neg (show CodePoint.ofChar ',' ≠ CodePoint.ofChar '\x7d' by decide), h]
  rfl

theorem putEntry_of_not_mem {entries : List (Text × Json)} {k : Text}
    (hk : k ∉ entries.map Prod.fst) (v : Json) : putEntry entries k v = entries ++ [(k, v)] := by
  induction entries with
  | nil => rfl
  | cons q rest ih =>
    rw [List.map_cons, List.mem_cons, not_or] at hk
    rw [putEntry, if_neg (Ne.symm hk.1), ih hk.2]
    rfl

/-- Entries with distinct keys are gathered as they are, by any function that puts an entry with a
new key at the end. -/
theorem foldl_of_nodup {α : Type} {put : List (Text × α) → Text × α → List (Text × α)}
    (hput : ∀ entries q, q.1 ∉ entries.map Prod.fst → put entries q = entries ++ [q])
    {before rest : List (Text × α)} (h : ((before ++ rest).map Prod.fst).Nodup) :
    rest.foldl put before = before ++ rest := by
  induction rest generalizing before with
  | nil => rw [List.foldl_nil, List.append_nil]
  | cons q rest ih =>
    have hq : q.1 ∉ before.map Prod.fst := by
      rw [List.map_append, List.nodup_append] at h
      exact fun hmem => h.2.2 _ hmem _ (List.mem_map_of_mem List.mem_cons_self) rfl
    rw [List.append_cons] at h ⊢
    rw [List.foldl_cons, hput before q hq, ih h]

/-- Entries with distinct keys are the entries of their object. -/
theorem ofEntries_of_nodup {entries : List (Text × Json)} (h : (entries.map Prod.fst).Nodup) :
    ofEntries entries = .obj entries :=
  congrArg Json.obj (foldl_of_nodup (fun _ q hq => putEntry_of_not_mem hq q.2)
    ((List.nil_append entries).symm ▸ h))

end Steps

/-! ### Heads -/

variable {blanks : List CodePoint}

theorem not_isJsonSpace_of_isAsciiDigit {c : CodePoint} (h : c.isAsciiDigit = true) :
    isJsonSpace c = false ∧ c ≠ CodePoint.ofChar ']' := by
  constructor
  · cases hspace : isJsonSpace c with
    | false => rfl
    | true => exact Bool.noConfusion ((endsNumeral_of_isJsonSpace hspace).1.symm.trans h)
  · rintro rfl
    cases h

/-- A spelling starts with a character that is neither a blank nor a closing bracket. -/
theorem Spells.exists_cons {v : Json} {t : Text} (h : Spells blanks v t) :
    ∃ c more, t = c :: more ∧ isJsonSpace c = false ∧ c ≠ CodePoint.ofChar ']' := by
  cases h with
  | null => exact ⟨_, _, rfl, by decide, by decide⟩
  | boolTrue => exact ⟨_, _, rfl, by decide, by decide⟩
  | boolFalse => exact ⟨_, _, rfl, by decide, by decide⟩
  | @int n _ =>
    cases n with
    | ofNat k =>
      obtain ⟨c, more, hcons, hc⟩ := Text.exists_cons_ofNat k
      obtain ⟨hspace, hne⟩ := not_isJsonSpace_of_isAsciiDigit hc
      exact ⟨c, more, hcons, hspace, hne⟩
    | negSucc k => exact ⟨_, _, rfl, by decide, by decide⟩
  | str ht => exact ⟨_, _, rfl, by decide, by decide⟩
  | emptyArray => exact ⟨_, _, rfl, by decide, by decide⟩
  | array items => exact ⟨_, _, rfl, by decide, by decide⟩
  | emptyObject => exact ⟨_, _, rfl, by decide, by decide⟩
  | object hdistinct entries => exact ⟨_, _, rfl, by decide, by decide⟩

theorem Spells.skipSpace_append {v : Json} {t : Text} (h : Spells blanks v t) (rest : Text) :
    skipSpace (t ++ rest) = t ++ rest := by
  obtain ⟨c, more, rfl, hc, -⟩ := h.exists_cons
  exact skipSpace_cons hc _

theorem skipSpace_gap_spells {v : Json} {gap t : Text} (hgap : ∀ c ∈ gap, isJsonSpace c = true)
    (h : Spells blanks v t) (rest : Text) : skipSpace (gap ++ (t ++ rest)) = t ++ rest :=
  (skipSpace_gap hgap _).trans (h.skipSpace_append rest)

theorem renderText_append (k rest : Text) :
    renderText k ++ rest =
      CodePoint.ofChar '"' :: (k.flatMap escapeCodePoint ++ CodePoint.ofChar '"' :: rest) := by
  simp only [renderText, List.append_assoc]
  rfl

/-! ### Spellings -/

/-- Blanks are white space to the reader. -/
def Blanks (blanks : List CodePoint) : Prop := ∀ c ∈ blanks, isJsonSpace c = true

theorem Gap.isJsonSpace {gap : Text} (h : Gap blanks gap) (space : Blanks blanks) :
    ∀ c ∈ gap, isJsonSpace c = true := fun c hc => space c (h c hc)

theorem SpellsItems.skipSpace_ne {items : List Json} {body : Text}
    (h : SpellsItems blanks items body) (space : Blanks blanks) (rest : Text) :
    ∃ c more, skipSpace (body ++ rest) = c :: more ∧ c ≠ CodePoint.ofChar ']' := by
  have hvalue : ∀ {v : Json} {before t : Text}, Gap blanks before → Spells blanks v t →
      ∀ more, ∃ c tail, skipSpace (before ++ (t ++ more)) = c :: tail ∧
        c ≠ CodePoint.ofChar ']' := by
    intro v before t hbefore value more
    obtain ⟨c, tail, rfl, -, hc⟩ := value.exists_cons
    exact ⟨c, tail ++ more, skipSpace_gap_spells (hbefore.isJsonSpace space) value more, hc⟩
  cases h with
  | last hbefore value hafter =>
    simp only [List.append_assoc]
    exact hvalue hbefore value _
  | cons hbefore value items =>
    simp only [List.append_assoc]
    exact hvalue hbefore value _

theorem skipSpace_gap_renderText {gap : Text} (hgap : Gap blanks gap) (space : Blanks blanks)
    (k rest : Text) : skipSpace (gap ++ (renderText k ++ rest)) = renderText k ++ rest := by
  rw [skipSpace_gap (hgap.isJsonSpace space), renderText_append]
  exact skipSpace_cons (by decide) _

theorem SpellsEntries.skipSpace_eq {entries : List (Text × Json)} {body : Text}
    (h : SpellsEntries blanks entries body) (space : Blanks blanks) (rest : Text) :
    ∃ more, skipSpace (body ++ rest) = CodePoint.ofChar '"' :: more := by
  cases h with
  | last hbefore hk hbetween value hafter =>
    simp only [List.append_assoc]
    exact ⟨_, (skipSpace_gap_renderText hbefore space _ _).trans (renderText_append _ _)⟩
  | cons hbefore hk hbetween value entries =>
    simp only [List.append_assoc]
    exact ⟨_, (skipSpace_gap_renderText hbefore space _ _).trans (renderText_append _ _)⟩

theorem exists_fuel {n fuel : Nat} (h : n + 1 ≤ fuel) : ∃ f, fuel = f + 1 ∧ n ≤ f :=
  ⟨fuel - 1, by omega, by omega⟩

mutual

/-- A value is read from its spelling. The induction follows the spelling; each call takes one of
the fuel and leaves at least one character to the calls inside it. -/
theorem Spells.scanValue_append (space : Blanks blanks) {v : Json} {t : Text} :
    Spells blanks v t → ∀ {rest : Text} {fuel : Nat}, Delimits rest → t.length ≤ fuel →
      scanValue fuel (t ++ rest) = .ok (v, rest)
  | .null, rest, fuel + 1, _, _ => rfl
  | .boolTrue, rest, fuel + 1, _, _ => rfl
  | .boolFalse, rest, fuel + 1, _, _ => rfl
  | @Spells.int _ n hn, rest, fuel, hrest, hfuel => by
    obtain ⟨c, more, hcons, -⟩ := (Spells.int hn : Spells blanks _ _).exists_cons
    rw [hcons] at hfuel
    obtain ⟨f, rfl, -⟩ := exists_fuel hfuel
    exact scanValue_ofInt hn hrest f
  | .str ht, rest, fuel + 1, _, _ => by
    rw [renderText_append]
    exact scanValue_quote fun start => scanString_escaped ht start rest
  | .emptyArray, rest, fuel + 1, _, _ => rfl
  | .array items, rest, fuel + 1, hrest, hfuel => by
    obtain ⟨c, more, hskip, hc⟩ := items.skipSpace_ne space rest
    exact scanValue_bracket hskip hc (items.scanItems_append space (Nat.le_of_succ_le_succ hfuel))
  | .emptyObject, rest, fuel + 1, _, _ => rfl
  | .object hdistinct entries, rest, fuel + 1, hrest, hfuel => by
    obtain ⟨more, hskip⟩ := entries.skipSpace_eq space rest
    rw [← ofEntries_of_nodup hdistinct]
    exact scanValue_brace hskip (entries.scanEntries_append space (Nat.le_of_succ_le_succ hfuel))

theorem SpellsItems.scanItems_append (space : Blanks blanks) {items : List Json} {body : Text} :
    SpellsItems blanks items body → ∀ {rest : Text} {fuel : Nat}, body.length ≤ fuel →
      scanItems fuel (skipSpace (body ++ rest)) = .ok (items, rest)
  | @SpellsItems.last _ v before t after hbefore value hafter, rest, fuel, hfuel => by
    have hclose : List.length ("]" : Text) = 1 := rfl
    simp only [List.length_append] at hfuel
    obtain ⟨f, rfl, hf⟩ := exists_fuel (show List.length t + 1 ≤ fuel by omega)
    have hafter := hafter.isJsonSpace space
    simp only [List.append_assoc]
    rw [skipSpace_gap_spells (hbefore.isJsonSpace space) value]
    exact scanItems_last
      (value.scanValue_append space (delimits_gap hafter (delimits_cons (by decide) rest)) hf)
      ((skipSpace_gap hafter _).trans (skipSpace_cons (by decide) rest))
  | @SpellsItems.cons _ v items before t body hbefore value hitems, rest, fuel, hfuel => by
    have hcomma : List.length ("," : Text) = 1 := rfl
    simp only [List.length_append] at hfuel
    obtain ⟨f, rfl, hf⟩ := exists_fuel (show List.length t + List.length body + 1 ≤ fuel by omega)
    simp only [List.append_assoc]
    rw [skipSpace_gap_spells (hbefore.isJsonSpace space) value]
    exact scanItems_cons
      (value.scanValue_append space (delimits_cons (by decide) _) (by omega))
      (skipSpace_cons (by decide) _) (hitems.scanItems_append space (by omega))

theorem SpellsEntries.scanEntries_append (space : Blanks blanks) {entries : List (Text × Json)}
    {body : Text} :
    SpellsEntries blanks entries body → ∀ {rest : Text} {fuel : Nat}, body.length ≤ fuel →
      scanEntries fuel (skipSpace (body ++ rest)) = .ok (entries, rest)
  | @SpellsEntries.last _ k v before between t after hbefore hk hbetween value hafter, rest, fuel,
      hfuel => by
    have hclose : List.length ("\x7d" : Text) = 1 := rfl
    simp only [List.length_append] at hfuel
    obtain ⟨f, rfl, hf⟩ := exists_fuel (show List.length t + 1 ≤ fuel by omega)
    have hafter := hafter.isJsonSpace space
    have hbetween := hbetween.isJsonSpace space
    have hvalue : scanValue f (skipSpace (between ++ (t ++ (after ++ ("\x7d" ++ rest))))) =
        .ok (v, after ++ ("\x7d" ++ rest)) := by
      rw [skipSpace_gap_spells hbetween value]
      exact value.scanValue_append space (delimits_gap hafter (delimits_cons (by decide) rest)) hf
    simp only [List.append_assoc]
    rw [skipSpace_gap_renderText hbefore space, renderText_append]
    exact scanEntries_last (fun start => scanString_escaped hk start _)
      (skipSpace_cons (by decide) _) hvalue
      ((skipSpace_gap hafter _).trans (skipSpace_cons (by decide) rest))
  | @SpellsEntries.cons _ k v entries before between t body hbefore hk hbetween value hentries,
      rest, fuel, hfuel => by
    have hcomma : List.length ("," : Text) = 1 := rfl
    simp only [List.length_append] at hfuel
    obtain ⟨f, rfl, hf⟩ := exists_fuel (show List.length t + List.length body + 1 ≤ fuel by omega)
    have hbetween := hbetween.isJsonSpace space
    have hvalue : scanValue f (skipSpace (between ++ (t ++ ("," ++ (body ++ rest))))) =
        .ok (v, "," ++ (body ++ rest)) := by
      rw [skipSpace_gap_spells hbetween value]
      exact value.scanValue_append space (delimits_cons (by decide) _) (by omega)
    simp only [List.append_assoc]
    rw [skipSpace_gap_renderText hbefore space, renderText_append]
    exact scanEntries_cons (fun start => scanString_escaped hk start _)
      (skipSpace_cons (by decide) _) hvalue (skipSpace_cons (by decide) _)
      (hentries.scanEntries_append space (by omega))

end

/-- A spelling with white space behind is the whole text of its value. -/
theorem Spells.parse_append (space : Blanks blanks) {v : Json} {t gap : Text}
    (h : Spells blanks v t) (hgap : ∀ c ∈ gap, isJsonSpace c = true) :
    parse (t ++ gap) = .ok v := by
  obtain ⟨c, more, hcons, hc, -⟩ := h.exists_cons
  have hmark : (t ++ gap).head? ≠ some (CodePoint.ofNat 0xFEFF) := by
    have hplain : c.Plain := (h.tame c (hcons ▸ List.mem_cons_self)).resolve_right fun hblank =>
      Bool.noConfusion (hc.symm.trans (space c hblank))
    rw [hcons, List.cons_append, List.head?_cons]
    rintro ⟨⟩
    exact absurd hplain (by decide)
  have hscan : scanValue (2 * (t ++ gap).length + 2) (t ++ gap) = .ok (v, gap) := by
    refine h.scanValue_append space ?_ ?_
    · exact List.append_nil gap ▸ delimits_gap hgap delimits_nil
    · rw [List.length_append]
      omega
  have hskip : skipSpace gap = [] :=
    (List.append_nil gap ▸ skipSpace_gap hgap [] : skipSpace gap = skipSpace [])
  rw [parse, if_neg hmark, h.skipSpace_append, hscan]
  simp only [bind, Except.bind, hskip]
  rfl

/-- A value on one line is read back. -/
theorem parse_render {v : Json} (h : v.Regular Exact) : parse (render v) = .ok v := by
  have space : Blanks inlineBlanks := by
    unfold Blanks
    decide
  have hparse := h.spells_render.parse_append space (List.forall_mem_nil _)
  rwa [List.append_nil] at hparse

/-- A value with a line for each entry is read back, a line break behind it or not. -/
theorem parse_renderIndented {v : Json} (h : v.Regular Exact) {gap : Text}
    (hgap : ∀ c ∈ gap, isJsonSpace c = true) : parse (renderIndented v ++ gap) = .ok v := by
  have space : Blanks lineBlanks := by
    unfold Blanks
    decide
  exact (h.spells_renderAt 0).parse_append space hgap

end StepUp.Json
