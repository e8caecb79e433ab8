import StepUp.Json.Parser
import StepUp.Json.Printer
import StepUp.Proofs.Text.Decimal

/-!
# Spellings of JSON values

`Json.Spells blanks v t` is the grammar of what is written: `t` spells the value `v` with escaped
texts, plain numerals and any blanks between the tokens of arrays and objects. The value on one
line (`Regular.spells_render`) and the value with a line for each entry
(`Regular.spells_renderAt`) are both spellings of it, with different blanks. A spelling has only
plain characters besides its blanks (`Spells.tame`).

A value has a spelling if it is `Regular Exact`: no floating point number, no surrogate in a text
or a key, no integer of too many digits, no key twice in an object.
-/

namespace StepUp

/-- No code point of a text is a surrogate. -/
def Text.Unicode (t : Text) : Prop := ∀ c ∈ t, c.isSurrogate = false

instance {t : Text} : Decidable t.Unicode :=
  inferInstanceAs (Decidable (∀ c ∈ t, c.isSurrogate = false))

namespace Json

/-- Every leaf and every key of a value has a property, and no object has a key twice. -/
inductive Regular (p : Json → Prop) : Json → Prop
  | leaf {v : Json} : p v → Regular p v
  | arr {items : List Json} : (∀ v ∈ items, Regular p v) → Regular p (.arr items)
  | obj {entries : List (Text × Json)} :
    (entries.map Prod.fst).Nodup → (∀ q ∈ entries, p (.str q.1)) →
      (∀ q ∈ entries, Regular p q.2) → Regular p (.obj entries)

/-- The numeral of an integer is within the limit of digits. -/
def IntInLimit (n : Int) : Prop := (Text.ofNat n.natAbs).length ≤ maxDigits

/-- Leaves that are the same after writing and reading. -/
def Exact : Json → Prop
  | .null | .bool _ => True
  | .int n => IntInLimit n
  | .str t => t.Unicode
  | .float _ | .arr _ | .obj _ => False

instance : DecidablePred Exact
  | .null | .bool _ => .isTrue trivial
  | .int n => inferInstanceAs (Decidable ((Text.ofNat n.natAbs).length ≤ maxDigits))
  | .str t => inferInstanceAs (Decidable t.Unicode)
  | .float _ | .arr _ | .obj _ => .isFalse id

def Gap (blanks : List CodePoint) (t : Text) : Prop := ∀ c ∈ t, c ∈ blanks

mutual

inductive Spells (blanks : List CodePoint) : Json → Text → Prop
  | null : Spells blanks .null "null"
  | boolTrue : Spells blanks (.bool true) "true"
  | boolFalse : Spells blanks (.bool false) "false"
  | int {n : Int} : IntInLimit n → Spells blanks (.int n) (Text.ofInt n)
  | str {t : Text} : t.Unicode → Spells blanks (.str t) (renderText t)
  | emptyArray : Spells blanks (.arr []) "[]"
  | array {items : List Json} {body : Text} :
    SpellsItems blanks items body → Spells blanks (.arr items) ("[" ++ body)
  | emptyObject : Spells blanks (.obj []) "\x7b\x7d"
  | object {entries : List (Text × Json)} {body : Text} :
    (entries.map Prod.fst).Nodup → SpellsEntries blanks entries body →
      Spells blanks (.obj entries) ("\x7b" ++ body)

/-- The items of an array behind its bracket, with the closing one. -/
inductive SpellsItems (blanks : List CodePoint) : List Json → Text → Prop
  | last {v : Json} {before t after : Text} :
    Gap blanks before → Spells blanks v t → Gap blanks after →
      SpellsItems blanks [v] (before ++ t ++ after ++ "]")
  | cons {v : Json} {items : List Json} {before t body : Text} :
    Gap blanks before → Spells blanks v t → SpellsItems blanks items body →
      SpellsItems blanks (v :: items) (before ++ t ++ "," ++ body)

/-- The entries of an object behind its brace, with the closing one. -/
inductive SpellsEntries (blanks : List CodePoint) : List (Text × Json) → Text → Prop
  | last {k : Text} {v : Json} {before between t after : Text} :
    Gap blanks before → k.Unicode → Gap blanks between → Spells blanks v t → Gap blanks after →
      SpellsEntries blanks [(k, v)]
        (before ++ renderText k ++ ":" ++ between ++ t ++ after ++ "\x7d")
  | cons {k : Text} {v : Json} {entries : List (Text × Json)} {before between t body : Text} :
    Gap blanks before → k.Unicode → Gap blanks between → Spells blanks v t →
      SpellsEntries blanks entries body →
      SpellsEntries blanks ((k, v) :: entries)
        (before ++ renderText k ++ ":" ++ between ++ t ++ "," ++ body)

end

/-! ## What is written is a spelling -/

theorem Gap.nil {blanks : List CodePoint} : Gap blanks [] := fun _ h => absurd h List.not_mem_nil

/-- The blanks of a value on one line. -/
def inlineBlanks : List CodePoint := [CodePoint.ofChar ' ']

/-- The blanks of a value that is spread over lines. -/
def lineBlanks : List CodePoint := [CodePoint.ofChar ' ', CodePoint.ofChar '\n']

theorem gap_inline : Gap inlineBlanks " " := fun _ h => h

theorem gap_space : Gap lineBlanks " " := by
  intro c hc
  exact List.mem_cons.mpr (Or.inl (List.mem_singleton.mp hc))

theorem gap_newline (level : Nat) : Gap lineBlanks (newline level) := by
  intro c hc
  rcases List.mem_cons.mp hc with rfl | hc
  · decide
  · rw [List.eq_of_mem_replicate hc]
    decide

theorem Exact.spells {blanks : List CodePoint} {v : Json} (h : v.Exact) :
    Spells blanks v (render v) := by
  cases v with
  | null => exact .null
  | bool b =>
    cases b with
    | true => exact .boolTrue
    | false => exact .boolFalse
  | int n => exact .int h
  | str t => exact .str h
  | float x => cases h
  | arr items => cases h
  | obj entries => cases h

theorem Exact.renderAt_eq {v : Json} (h : v.Exact) (level : Nat) : renderAt level v = render v := by
  cases v with
  | arr items => cases h
  | obj entries => cases h
  | _ => rfl

/-! ### On one line -/

theorem comma_space : (", " : Text) = "," ++ " " := rfl

theorem colon_space : (": " : Text) = ":" ++ " " := rfl

theorem spellsItems_renderItems {before : Text} (hbefore : Gap inlineBlanks before) :
    ∀ {items : List Json}, items ≠ [] → (∀ v ∈ items, Spells inlineBlanks v (render v)) →
      SpellsItems inlineBlanks items (before ++ renderItems items ++ "]")
  | [v], _, h => by
    have hlast := SpellsItems.last hbefore (h v List.mem_cons_self) Gap.nil
    rwa [List.append_nil] at hlast
  | v :: w :: rest, _, h => by
    have hrest := spellsItems_renderItems gap_inline (List.cons_ne_nil w rest) fun x hx =>
      h x (List.mem_cons_of_mem _ hx)
    have hcons := SpellsItems.cons hbefore (h v List.mem_cons_self) hrest
    simpa only [renderItems, comma_space, List.append_assoc] using hcons

theorem spellsEntries_renderEntries {before : Text} (hbefore : Gap inlineBlanks before) :
    ∀ {entries : List (Text × Json)}, entries ≠ [] → (∀ q ∈ entries, Text.Unicode q.1) →
      (∀ q ∈ entries, Spells inlineBlanks q.2 (render q.2)) →
      SpellsEntries inlineBlanks entries (before ++ renderEntries entries ++ "\x7d")
  | [(k, v)], _, hk, h => by
    have hlast := SpellsEntries.last hbefore (hk (k, v) List.mem_cons_self) gap_inline
      (h (k, v) List.mem_cons_self) Gap.nil
    simpa only [renderEntries, colon_space, List.append_assoc, List.append_nil] using hlast
  | (k, v) :: q :: rest, _, hk, h => by
    have hrest := spellsEntries_renderEntries gap_inline (List.cons_ne_nil q rest)
      (fun x hx => hk x (List.mem_cons_of_mem _ hx)) fun x hx => h x (List.mem_cons_of_mem _ hx)
    have hcons := SpellsEntries.cons hbefore (hk (k, v) List.mem_cons_self) gap_inline
      (h (k, v) List.mem_cons_self) hrest
    simpa only [renderEntries, comma_space, colon_space, List.append_assoc] using hcons

/-- A value on one line is a spelling of it. -/
theorem Regular.spells_render {v : Json} (h : v.Regular Exact) :
    Spells inlineBlanks v (render v) := by
  induction h with
  | leaf hv => exact hv.spells
  | @arr items _ ih =>
    cases items with
    | nil => exact .emptyArray
    | cons v rest =>
      have hitems := spellsItems_renderItems Gap.nil (List.cons_ne_nil v rest) ih
      simpa only [render, List.nil_append, List.append_assoc] using Spells.array hitems
  | @obj entries hdistinct hkeys _ ih =>
    cases entries with
    | nil => exact .emptyObject
    | cons q rest =>
      have hentries := spellsEntries_renderEntries Gap.nil (List.cons_ne_nil q rest) hkeys ih
      simpa only [render, List.nil_append, List.append_assoc] using
        Spells.object hdistinct hentries

/-! ### On lines of its own -/

theorem spellsItems_renderItemsAt {level : Nat} {after : Text} (hafter : Gap lineBlanks after) :
    ∀ {items : List Json}, items ≠ [] → (∀ v ∈ items, Spells lineBlanks v (renderAt level v)) →
      SpellsItems lineBlanks items (renderItemsAt level items ++ after ++ "]")
  | [v], _, h => .last (gap_newline level) (h v List.mem_cons_self) hafter
  | v :: w :: rest, _, h => by
    have hrest := spellsItems_renderItemsAt hafter (List.cons_ne_nil w rest) fun x hx =>
      h x (List.mem_cons_of_mem _ hx)
    have hcons := SpellsItems.cons (gap_newline level) (h v List.mem_cons_self) hrest
    simpa only [renderItemsAt, List.append_assoc] using hcons

theorem spellsEntries_renderEntriesAt {level : Nat} {after : Text} (hafter : Gap lineBlanks after) :
    ∀ {entries : List (Text × Json)}, entries ≠ [] → (∀ q ∈ entries, Text.Unicode q.1) →
      (∀ q ∈ entries, Spells lineBlanks q.2 (renderAt level q.2)) →
      SpellsEntries lineBlanks entries (renderEntriesAt level entries ++ after ++ "\x7d")
  | [(k, v)], _, hk, h => by
    have hlast := SpellsEntries.last (gap_newline level) (hk (k, v) List.mem_cons_self) gap_space
      (h (k, v) List.mem_cons_self) hafter
    simpa only [renderEntriesAt, colon_space, List.append_assoc] using hlast
  | (k, v) :: q :: rest, _, hk, h => by
    have hrest := spellsEntries_renderEntriesAt hafter (List.cons_ne_nil q rest)
      (fun x hx => hk x (List.mem_cons_of_mem _ hx)) fun x hx => h x (List.mem_cons_of_mem _ hx)
    have hcons := SpellsEntries.cons (gap_newline level) (hk (k, v) List.mem_cons_self) gap_space
      (h (k, v) List.mem_cons_self) hrest
    simpa only [renderEntriesAt, colon_space, List.append_assoc] using hcons

/-- A value with a line for each entry is a spelling of it, at every level. -/
theorem Regular.spells_renderAt {v : Json} (h : v.Regular Exact) (level : Nat) :
    Spells lineBlanks v (renderAt level v) := by
  induction h generalizing level with
  | leaf hv => exact hv.renderAt_eq level ▸ hv.spells
  | @arr items _ ih =>
    cases items with
    | nil => exact .emptyArray
    | cons v rest =>
      have hitems := spellsItems_renderItemsAt (gap_newline level) (List.cons_ne_nil v rest)
        fun w hw => ih w hw (level + 1)
      simpa only [renderAt, List.append_assoc] using Spells.array hitems
  | @obj entries hdistinct hkeys _ ih =>
    cases entries with
    | nil => exact .emptyObject
    | cons q rest =>
      have hentries := spellsEntries_renderEntriesAt (gap_newline level) (List.cons_ne_nil q rest)
        hkeys fun r hr => ih r hr (level + 1)
      simpa only [renderAt, List.append_assoc] using Spells.object hdistinct hentries

/-! ## The characters of a spelling -/

end Json

/-- From space to tilde. -/
def CodePoint.Plain (c : CodePoint) : Prop := 0x20 ≤ c.val ∧ c.val < 0x7F

instance {c : CodePoint} : Decidable c.Plain := inferInstanceAs (Decidable (_ ∧ _))

namespace Text

theorem plain_hexDigit : ∀ {n : Nat}, n < 16 → (hexDigit n).Plain := by
  decide

theorem plain_hex_four {n : Nat} (h : n < 0x10000) : ∀ c ∈ hex 4 n, c.Plain := by
  intro c hc
  rw [hex_four h] at hc
  simp only [List.mem_cons, List.not_mem_nil, or_false] at hc
  rcases hc with rfl | rfl | rfl | rfl <;> exact plain_hexDigit (by omega)

theorem plain_ofNat (n : Nat) : ∀ c ∈ ofNat n, c.Plain := by
  intro c hc
  have hdigit := isAsciiDigit_of_mem_ofNat hc
  simp only [CodePoint.isAsciiDigit, Bool.and_eq_true, decide_eq_true_eq] at hdigit
  exact ⟨by omega, by omega⟩

theorem plain_ofInt (n : Int) : ∀ c ∈ ofInt n, c.Plain := by
  cases n with
  | ofNat k => exact plain_ofNat k
  | negSucc k => exact List.forall_mem_cons.mpr ⟨by decide, plain_ofNat (k + 1)⟩

end Text

namespace Json

theorem plain_escapeUnit {n : Nat} (h : n < 0x10000) : ∀ c ∈ escapeUnit n, c.Plain :=
  List.forall_mem_append.mpr ⟨by decide, Text.plain_hex_four h⟩

theorem plain_escapeCodePoint (c : CodePoint) : ∀ d ∈ escapeCodePoint c, d.Plain := by
  have hlt := c.isLt
  unfold escapeCodePoint
  repeat' split
  · decide
  · decide
  · decide
  · decide
  · decide
  · decide
  · decide
  · rename_i hplain
    simp only [Bool.and_eq_true, decide_eq_true_eq] at hplain
    exact List.forall_mem_singleton.mpr hplain
  · exact plain_escapeUnit ‹_›
  · exact List.forall_mem_append.mpr ⟨plain_escapeUnit (by omega), plain_escapeUnit (by omega)⟩

theorem plain_renderText (t : Text) : ∀ c ∈ renderText t, c.Plain := by
  refine List.forall_mem_append.mpr ⟨List.forall_mem_append.mpr ⟨by decide, ?_⟩, by decide⟩
  intro d hd
  obtain ⟨c, -, hc⟩ := List.mem_flatMap.mp hd
  exact plain_escapeCodePoint c d hc

variable {blanks : List CodePoint}

/-- The characters of what is written: plain ones and blanks. -/
def Tame (blanks : List CodePoint) (t : Text) : Prop := ∀ c ∈ t, c.Plain ∨ c ∈ blanks

theorem Tame.of_plain {t : Text} (h : ∀ c ∈ t, c.Plain) : Tame blanks t :=
  fun c hc => Or.inl (h c hc)

theorem Gap.tame {t : Text} (h : Gap blanks t) : Tame blanks t :=
  fun c hc => Or.inr (h c hc)

theorem Tame.append {s t : Text} (hs : Tame blanks s) (ht : Tame blanks t) : Tame blanks (s ++ t) :=
  List.forall_mem_append.mpr ⟨hs, ht⟩

mutual

/-- A spelling consists of plain characters and of the blanks. -/
theorem Spells.tame {v : Json} {t : Text} : Spells blanks v t → Tame blanks t
  | .null => .of_plain (by decide)
  | .boolTrue => .of_plain (by decide)
  | .boolFalse => .of_plain (by decide)
  | .int _ => .of_plain (Text.plain_ofInt _)
  | .str _ => .of_plain (plain_renderText _)
  | .emptyArray => .of_plain (by decide)
  | .array items => .append (.of_plain (by decide)) items.tame
  | .emptyObject => .of_plain (by decide)
  | .object _ entries => .append (.of_plain (by decide)) entries.tame

theorem SpellsItems.tame {items : List Json} {t : Text} : SpellsItems blanks items t → Tame blanks t
  | .last hbefore value hafter =>
    .append (.append (.append hbefore.tame value.tame) hafter.tame) (.of_plain (by decide))
  | .cons hbefore value items =>
    .append (.append (.append hbefore.tame value.tame) (.of_plain (by decide))) items.tame

theorem SpellsEntries.tame {entries : List (Text × Json)} {t : Text} :
    SpellsEntries blanks entries t → Tame blanks t
  | .last hbefore _ hbetween value hafter =>
    .append (.append (.append (.append (.append (.append hbefore.tame
      (.of_plain (plain_renderText _))) (.of_plain (by decide))) hbetween.tame) value.tame)
      hafter.tame) (.of_plain (by decide))
  | .cons hbefore _ hbetween value entries =>
    .append (.append (.append (.append (.append (.append hbefore.tame
      (.of_plain (plain_renderText _))) (.of_plain (by decide))) hbetween.tame) value.tame)
      (.of_plain (by decide))) entries.tame

end

end Json

end StepUp
