import StepUp.Proofs.Pattern.Parts

/-!
# Reading the patterns of the grammar

A pattern of the grammar (`Denotes`) that is read without complaint becomes a tree whose search
takes the words of the language that the pattern denotes, and so describes these texts and no
others (`describes_compile`). Reading a sequence is followed step by step, from one item to the
next (`ReadsOn`); the theorem is by induction on the grammar, with a lemma for each of its cases.
-/

namespace StepUp.Pattern

open Reader

variable {p q : Progress} {s t : Text} {c : CodePoint} {L M : Language CodePoint} {fuel : Nat}
  {first : Bool} {item : Item} {items : List Item} {r : Pattern}

/-! ## Items -/

/-- The items, of which the last comes first, take the words of the language one behind the
other. -/
inductive Item.Realize : List Item → Language CodePoint → Prop
  | nil : Realize [] 1
  | cons {item : Item} {items : List Item} {L M : Language CodePoint}
    (last : Search.Realizes item.pattern.search L) (before : Realize items M) :
    Realize (item :: items) (M * L)

theorem Item.Realize.join (h : Item.Realize items L) :
    Search.Realizes (Item.join items).search L := by
  have hfold : ∀ {items : List Item} {M L : Language CodePoint} {r : Pattern},
      Item.Realize items M → Search.Realizes r.search L →
        Search.Realizes (items.foldl (fun p item => .seq item.pattern p) r).search (M * L) := by
    intro items M L r h
    induction h generalizing L r with
    | nil =>
      rw [one_mul]
      exact id
    | cons last before ih =>
      intro hr
      rw [mul_assoc]
      exact ih (realizes_seq last hr)
  cases h with
  | nil => exact realizes_empty
  | cons last before => exact hfold before last

theorem pattern_ofPattern (p : Pattern) : (Item.ofPattern p).pattern = p := by
  cases p <;> rfl

/-! ## Steps of a sequence -/

/-- What may stand behind a sequence. -/
def Ends (t : Text) : Prop := ∀ c ∈ t.head?, c = '|' ∨ c = ')'

/-- With these items read, reading the sequence on from the text yields the tree and the
progress. -/
def ReadsOn (first : Bool) (items : List Item) (t : Text) (r : Pattern) (q : Progress) : Prop :=
  ∃ fuel p, p.At t ∧ Yields (readSequence fuel {} first items) p r q

theorem ReadsOn.exists_succ (h : ReadsOn first items t r q) :
    ∃ fuel p, p.At t ∧ Yields (readSequence (fuel + 1) {} first items) p r q := by
  obtain ⟨_ | fuel, p, hp, h⟩ := h
  · exact absurd h not_yields_fail
  · exact ⟨fuel, p, hp, h⟩

theorem ReadsOn.ends (hends : Ends t) (h : ReadsOn first items t r q) :
    r = Item.join items ∧ q.At t := by
  obtain ⟨fuel, p, hp, hread⟩ := h.exists_succ
  have hjoin : Yields (pure (Item.join items)) p r q := by
    rw [readSequence, yields_peek_bind_iff] at hread
    cases t with
    | nil =>
      rw [hp.rest] at hread
      exact hread
    | cons c t =>
      have hc := hends c rfl
      have hplain : Spells [c] c := .plain (by rcases hc with rfl | rfl <;> decide)
      have hstop : (decide ([c] = "|") || decide ([c] = ")")) = true := by
        rcases hc with rfl | rfl <;> decide
      rw [tokenOf?_rest hplain hp] at hread
      dsimp only at hread
      rwa [hstop, if_pos rfl] at hread
  obtain ⟨rfl, rfl⟩ := yields_pure_iff.mp hjoin
  exact ⟨rfl, hp⟩

theorem not_verbose (b : Bool) : ¬ (({} : Options).verbose && b) = true := Bool.false_ne_true

/-- A token that does not end the sequence is taken, and something is done behind it. -/
theorem of_yields_token {α : Type} {z : Reader α} {K : Progress → Reader α} {a : α}
    (hs : Spells s c) (hends : (decide (s = "|") || decide (s = ")")) = false)
    (hp : p.At (s ++ t))
    (h : Yields (if (decide (s = "|") || decide (s = ")")) = true then z
      else get >>= fun here => take >>= fun _ => K here) p a q) :
    ∃ here p', p'.At t ∧ Yields (K here) p' a q := by
  rw [hends, if_neg (by decide), yields_get_bind_iff] at h
  obtain ⟨_, p', htake, h⟩ := yields_bind_iff.mp h
  exact ⟨p, p', (take_token hs hp htake).2, h⟩

theorem ReadsOn.dot (h : ReadsOn first items (CodePoint.ofChar '.' :: t) r q) :
    ReadsOn first (.ofPattern (.one .notNewline) :: items) t r q := by
  obtain ⟨fuel, p, hp, h⟩ := h.exists_succ
  have hdot : Spells "." '.' := .plain (by decide)
  rw [readSequence, yields_peek_bind_iff, tokenOf?_rest hdot hp] at h
  obtain ⟨here, p', hp', h⟩ := of_yields_token hdot (by decide) hp h
  rw [if_neg (by decide), if_neg (by decide), if_neg (by decide), if_pos (by decide)] at h
  exact ⟨fuel, p', hp', h⟩

theorem ReadsOn.set (h : ReadsOn first items (CodePoint.ofChar '[' :: t) r q) :
    ∃ body p p', p.At t ∧ Yields (readSet {}) p body p' ∧
      ∀ t', p'.At t' → ReadsOn first (.ofPattern body :: items) t' r q := by
  obtain ⟨fuel, p, hp, h⟩ := h.exists_succ
  have hopen : Spells "[" '[' := .plain (by decide)
  rw [readSequence, yields_peek_bind_iff, tokenOf?_rest hopen hp] at h
  obtain ⟨here, p', hp', h⟩ := of_yields_token hopen (by decide) hp h
  rw [if_neg (by decide), if_neg (by decide), if_pos (by decide)] at h
  obtain ⟨body, p'', hbody, h⟩ := yields_bind_iff.mp h
  exact ⟨body, p', p'', hp', hbody, fun t' hp'' => ⟨fuel, p'', hp'', h⟩⟩

theorem ReadsOn.escaped (letter : c.isAsciiLetter = false) (digit : c.isAsciiDigit = false)
    (h : ReadsOn first items (CodePoint.ofChar '\\' :: c :: t) r q) :
    ReadsOn first (.ofPattern (literal {} c) :: items) t r q := by
  obtain ⟨fuel, p, hp, h⟩ := h.exists_succ
  have hescaped : Spells ['\\', c] c := .escaped letter digit
  have hne : ∀ token : Text, token.length = 1 → [CodePoint.ofChar '\\', c] ≠ token := by
    rintro _ htoken rfl
    cases htoken
  rw [readSequence, yields_peek_bind_iff, tokenOf?_rest hescaped hp] at h
  obtain ⟨here, p', hp', h⟩ := of_yields_token hescaped rfl hp h
  rw [if_neg (not_verbose _), if_neg (not_verbose _), if_neg (hne "[" rfl), if_neg (hne "." rfl),
    if_neg (hne "^" rfl), if_neg (hne "$" rfl), if_neg (hne "(" rfl),
    if_neg (by simp [hne "?" rfl, hne "*" rfl, hne "+" rfl, hne "\x7b" rfl])] at h
  simp only [readEscape_eq letter digit, pure_bind] at h
  exact ⟨fuel, p', hp', h⟩

theorem ReadsOn.literal (hc : c ∉ special) (hbrace : c = '\x7b' → ¬ Opens t)
    (h : ReadsOn first items (c :: t) r q) :
    ReadsOn first (.ofPattern (literal {} c) :: items) t r q := by
  have hne : ∀ token : Text, token ∈ special.map ([·]) → [c] ≠ token := by
    rintro token htoken rfl
    obtain ⟨x, hx, ⟨⟩⟩ := List.mem_map.mp htoken
    exact hc hx
  obtain ⟨fuel, p, hp, h⟩ := h.exists_succ
  have hplain : Spells [c] c := .plain fun h => hc (h ▸ (by decide))
  rw [readSequence, yields_peek_bind_iff, tokenOf?_rest hplain hp] at h
  have hends : (decide ([c] = "|") || decide ([c] = ")")) = false := by
    simp [hne "|" (by decide), hne ")" (by decide)]
  obtain ⟨here, p₁, hp₁, h⟩ := of_yields_token hplain hends hp h
  rw [if_neg (not_verbose _), if_neg (not_verbose _), if_neg (hne "[" (by decide)), if_neg (hne "." (by decide)),
    if_neg (hne "^" (by decide)), if_neg (hne "$" (by decide)), if_neg (hne "(" (by decide))] at h
  by_cases hc : c = '\x7b'
  · subst hc
    rw [if_pos (by decide)] at h
    obtain ⟨bounds, p₂, hbounds, h⟩ := yields_bind_iff.mp h
    obtain ⟨rfl, hp₂⟩ := readQuantifier_unopened (hbrace rfl) hp₁ hbounds
    exact ⟨fuel, p₂, hp₂, h⟩
  · have hbrace : [c] ≠ ("\x7b" : Text) := fun h => hc (List.cons.inj h).1
    have hquantifier : (decide ([c] = "?") || decide ([c] = "*") || decide ([c] = "+") ||
        decide ([c] = "\x7b")) = false := by
      simp [hne "?" (by decide), hne "*" (by decide), hne "+" (by decide), hbrace]
    rw [hquantifier, if_neg (by decide)] at h
    exact ⟨fuel, p₁, hp₁, h⟩

theorem readGreed_yields {mark : Text} {greed : Greed} (hmark : Preference mark) (hfresh : Fresh t)
    (hp : p.At (mark ++ t)) (h : Yields readGreed p greed q) : greed ≠ .possessive ∧ q.At t := by
  obtain ⟨isLazy, p₁, hlazy, h⟩ := yields_bind_iff.mp h
  cases hmark with
  | greedy =>
    obtain ⟨rfl, rfl⟩ := accept_other (by decide) hp
      (fun hhead => hfresh _ hhead (by decide)) hlazy
    rw [if_neg (by decide)] at h
    obtain ⟨isPossessive, p₂, hpossessive, h⟩ := yields_bind_iff.mp h
    obtain ⟨rfl, rfl⟩ := accept_other (by decide) hp
      (fun hhead => hfresh _ hhead (by decide)) hpossessive
    obtain ⟨rfl, rfl⟩ := yields_pure_iff.mp h
    exact ⟨by decide, hp⟩
  | lazy =>
    obtain ⟨rfl, hp₁⟩ := accept_self (by decide) hp hlazy
    obtain ⟨rfl, rfl⟩ := yields_pure_iff.mp h
    exact ⟨by decide, hp₁⟩

theorem repeatLast_yields {mark : Text} {start : Nat} {bounds : Nat × Option Nat}
    {repeated : List Item} (hmark : Preference mark) (hfresh : Fresh t) (hp : p.At (mark ++ t))
    (h : Yields (repeatLast start bounds (item :: items)) p repeated q) :
    ∃ greed, greed ≠ .possessive ∧
      repeated = ⟨.repetition, .times greed bounds.1 bounds.2 item.pattern⟩ :: items ∧ q.At t := by
  rw [repeatLast] at h
  obtain ⟨-, h⟩ := of_yields_check (fun _ _ => not_yields_failAt) h
  obtain ⟨-, h⟩ := of_yields_check (fun _ _ => not_yields_failAt) h
  obtain ⟨greed, p₁, hgreed, h⟩ := yields_bind_iff.mp h
  obtain ⟨hgreed, hp₁⟩ := readGreed_yields hmark hfresh hp hgreed
  obtain ⟨rfl, rfl⟩ := yields_pure_iff.mp h
  exact ⟨greed, hgreed, rfl, hp₁⟩

theorem ReadsOn.quantifier {mark : Text} {least : Nat} {greatest : Option Nat}
    (hs : Quantifier s least greatest) (hmark : Preference mark) (hfresh : Fresh t)
    (h : ReadsOn first (item :: items) (s ++ (mark ++ t)) r q) :
    ∃ greed, greed ≠ .possessive ∧ Within greatest least ∧
      ReadsOn first (⟨.repetition, .times greed least greatest item.pattern⟩ :: items) t r q := by
  obtain ⟨c, more, rfl, hc, hbounds⟩ := hs.exists_cons
  have hne : ∀ token ∈ (["[", ".", "^", "$", "("] : List Text), [c] ≠ token := by
    rcases hc with rfl | rfl | rfl | rfl <;> decide
  have hends : (decide ([c] = "|") || decide ([c] = ")")) = false := by
    rcases hc with rfl | rfl | rfl | rfl <;> decide
  have hquantifier : (decide ([c] = "?") || decide ([c] = "*") || decide ([c] = "+") ||
      decide ([c] = "\x7b")) = true := by
    rcases hc with rfl | rfl | rfl | rfl <;> decide
  obtain ⟨fuel, p, hp, h⟩ := h.exists_succ
  have hplain : Spells [c] c := .plain (by rcases hc with rfl | rfl | rfl | rfl <;> decide)
  rw [readSequence, yields_peek_bind_iff, tokenOf?_rest hplain hp] at h
  obtain ⟨here, p₁, hp₁, h⟩ := of_yields_token hplain hends hp h
  rw [if_neg (not_verbose _), if_neg (not_verbose _), if_neg (hne "[" (by decide)), if_neg (hne "." (by decide)),
    if_neg (hne "^" (by decide)), if_neg (hne "$" (by decide)), if_neg (hne "(" (by decide)),
    hquantifier, if_pos rfl] at h
  obtain ⟨bounds, p₂, hread, h⟩ := yields_bind_iff.mp h
  obtain ⟨rfl, hwithin, hp₂⟩ := hbounds hp₁ hread
  obtain ⟨repeated, p₃, hrepeat, h⟩ := yields_bind_iff.mp h
  obtain ⟨greed, hgreed, rfl, hp₃⟩ := repeatLast_yields hmark hfresh hp₂ hrepeat
  exact ⟨greed, hgreed, hwithin, fuel, p₃, hp₃, h⟩

/-! ## Groups -/

theorem expectClose_yields {start : Nat} {u : Unit} (hp : p.At (CodePoint.ofChar ')' :: t))
    (h : Yields (expectClose start) p u q) : q.At t := by
  obtain ⟨closed, p₁, hclosed, h⟩ := yields_bind_iff.mp h
  obtain ⟨rfl, hp₁⟩ := accept_self (by decide) hp hclosed
  obtain ⟨-, rfl⟩ := yields_pure_iff.mp h
  exact hp₁

theorem openGroup_yields {name : Option Text} {group : Nat} (hp : p.At t)
    (h : Yields (openGroup name) p group q) : q.At t := by
  obtain ⟨count, p₁, hcount, h⟩ := yields_bind_iff.mp h
  obtain ⟨rfl, rfl⟩ := yields_pure_iff.mp hcount
  rw [yields_modify_bind_iff] at h
  cases name with
  | none =>
    obtain ⟨rfl, rfl⟩ := yields_pure_iff.mp h
    exact ⟨hp.rest, hp.options⟩
  | some name =>
    rw [yields_get_bind_iff] at h
    revert h
    split
    · exact fun h => absurd h not_yields_fail
    · intro h
      rw [yields_modify_bind_iff] at h
      obtain ⟨rfl, rfl⟩ := yields_pure_iff.mp h
      exact ⟨hp.rest, hp.options⟩

/-- What reading alternatives up to a closing parenthesis or the end yields: a tree that takes the
words of the language. -/
def AlternativesRead (t : Text) (L : Language CodePoint) : Prop :=
  ∀ {fuel whole first p r q rest}, (∀ c ∈ rest.head?, c = CodePoint.ofChar ')') →
    p.At (t ++ rest) → Yields (readAlternatives fuel {} whole first) p r q →
      Search.Realizes r.search L ∧ q.At rest

theorem readGroup_yields {start : Nat} {name : Option Text} {body : Pattern} {rest : Text}
    (ht : AlternativesRead t L) (hp : p.At (t ++ CodePoint.ofChar ')' :: rest))
    (h : Yields (readGroup fuel {} start name) p body q) :
    Search.Realizes body.search L ∧ q.At rest := by
  obtain _ | fuel := fuel
  · exact absurd h not_yields_fail
  · rw [readGroup] at h
    obtain ⟨group, p₁, hopen, h⟩ := yields_bind_iff.mp h
    obtain ⟨inner, p₂, hinner, h⟩ := yields_bind_iff.mp h
    obtain ⟨hrealizes, hp₂⟩ := ht (by rintro _ ⟨⟩; rfl) (openGroup_yields hp hopen) hinner
    obtain ⟨_, p₃, hclose, h⟩ := yields_bind_iff.mp h
    have hp₃ := expectClose_yields hp₂ hclose
    rw [closeGroup, yields_modify_bind_iff] at h
    obtain ⟨rfl, rfl⟩ := yields_pure_iff.mp h
    exact ⟨realizes_capture group hrealizes, hp₃.rest, hp₃.options⟩

theorem ReadsOn.parenthesis (h : ReadsOn first items (CodePoint.ofChar '(' :: t) r q) :
    ∃ fuel start p piece p', p.At t ∧
      Yields (readParenthesis fuel {} start first items.isEmpty) p piece p' ∧
        ∀ body t', piece = .item body → p'.At t' →
          ReadsOn first (⟨.other, body⟩ :: items) t' r q := by
  obtain ⟨fuel, p, hp, h⟩ := h.exists_succ
  have hopen : Spells "(" '(' := .plain (by decide)
  rw [readSequence, yields_peek_bind_iff, tokenOf?_rest hopen hp] at h
  obtain ⟨here, p₁, hp₁, h⟩ := of_yields_token hopen (by decide) hp h
  rw [if_neg (by decide), if_neg (by decide), if_neg (by decide), if_neg (by decide),
    if_neg (by decide), if_neg (by decide), if_pos (by decide)] at h
  obtain ⟨piece, p₂, hpiece, h⟩ := yields_bind_iff.mp h
  refine ⟨fuel, here.position, p₁, piece, p₂, hp₁, hpiece, fun body t' hbody hp₂ => ?_⟩
  subst hbody
  exact ⟨fuel, p₂, hp₂, h⟩

section Parentheses

variable {start : Nat} {isFirstItem : Bool} {piece : Piece} {rest : Text}

theorem readParenthesis_capture (ht : AlternativesRead t L) (hfresh : Fresh t)
    (hp : p.At (t ++ CodePoint.ofChar ')' :: rest))
    (h : Yields (readParenthesis fuel {} start first isFirstItem) p piece q) :
    ∃ body, piece = .item body ∧ Search.Realizes body.search L ∧ q.At rest := by
  have hclosed : Fresh (CodePoint.ofChar ')' :: rest) := by
    rintro _ ⟨⟩
    decide
  have hhead : (t ++ CodePoint.ofChar ')' :: rest).head? ≠ some (CodePoint.ofChar '?') :=
    fun hhead => hfresh.append hclosed _ hhead (by decide)
  obtain _ | fuel := fuel
  · exact absurd h not_yields_fail
  · rw [readParenthesis] at h
    obtain ⟨marked, p₁, hmarked, h⟩ := yields_bind_iff.mp h
    obtain ⟨rfl, rfl⟩ := accept_other (by decide) hp hhead hmarked
    rw [if_pos (by decide)] at h
    obtain ⟨body, p₂, hgroup, h⟩ := yields_bind_iff.mp h
    obtain ⟨rfl, rfl⟩ := yields_pure_iff.mp h
    exact ⟨body, rfl, readGroup_yields ht hp hgroup⟩

/-- Behind the question mark the next token says what the parenthesis is. -/
theorem of_yields_marked {α : Type} {z w : Reader α} {K : Text → Reader α} {a : α} {u : Text}
    (hc : c ≠ '\\') (hp : p.At (CodePoint.ofChar '?' :: c :: u))
    (h : Yields (do
      if !(← accept '?') then z
      else
        match ← take with
        | none => w
        | some token => K token) p a q) :
    ∃ p', p'.At u ∧ Yields (K [c]) p' a q := by
  obtain ⟨marked, p₁, hmarked, h⟩ := yields_bind_iff.mp h
  obtain ⟨rfl, hp₁⟩ := accept_self (by decide) hp hmarked
  rw [if_neg (by decide)] at h
  obtain ⟨token, p₂, htake, h⟩ := yields_bind_iff.mp h
  obtain ⟨rfl, hp₂⟩ := take_plain hc hp₁ htake
  exact ⟨p₂, hp₂, h⟩

theorem readParenthesis_named {name : Text} (ht : AlternativesRead t L)
    (hname : ∀ c ∈ name, c ≠ '\\' ∧ c ≠ '>')
    (hp : p.At (CodePoint.ofChar '?' :: CodePoint.ofChar 'P' :: CodePoint.ofChar '<' ::
      (name ++ CodePoint.ofChar '>' :: (t ++ CodePoint.ofChar ')' :: rest))))
    (h : Yields (readParenthesis fuel {} start first isFirstItem) p piece q) :
    ∃ body, piece = .item body ∧ Search.Realizes body.search L ∧ q.At rest := by
  obtain _ | fuel := fuel
  · exact absurd h not_yields_fail
  · rw [readParenthesis] at h
    obtain ⟨p₁, hp₁, h⟩ := of_yields_marked (by decide) hp h
    rw [if_pos (by decide)] at h
    obtain ⟨opened, p₂, hopened, h⟩ := yields_bind_iff.mp h
    obtain ⟨rfl, hp₂⟩ := accept_self (by decide) hp₁ hopened
    rw [if_pos rfl] at h
    obtain ⟨taken, p₃, hnamed, h⟩ := yields_bind_iff.mp h
    have hp₃ := takeName_plain (by decide) hname hp₂ hnamed
    obtain ⟨_, p₄, hcheck, h⟩ := yields_bind_iff.mp h
    obtain rfl := checkGroupName_keeps hcheck
    obtain ⟨body, p₅, hgroup, h⟩ := yields_bind_iff.mp h
    obtain ⟨rfl, rfl⟩ := yields_pure_iff.mp h
    exact ⟨body, rfl, readGroup_yields ht hp₃ hgroup⟩

theorem readParenthesis_group (ht : AlternativesRead t L)
    (hp : p.At (CodePoint.ofChar '?' :: CodePoint.ofChar ':' ::
      (t ++ CodePoint.ofChar ')' :: rest)))
    (h : Yields (readParenthesis fuel {} start first isFirstItem) p piece q) :
    ∃ body, piece = .item body ∧ Search.Realizes body.search L ∧ q.At rest := by
  obtain _ | fuel := fuel
  · exact absurd h not_yields_fail
  · rw [readParenthesis] at h
    obtain ⟨p₁, hp₁, h⟩ := of_yields_marked (by decide) hp h
    rw [if_neg (by decide), if_pos (by decide)] at h
    obtain ⟨body, p₂, hbody, h⟩ := yields_bind_iff.mp h
    obtain ⟨hrealizes, hp₂⟩ := ht (by rintro _ ⟨⟩; rfl) hp₁ hbody
    obtain ⟨_, p₃, hclose, h⟩ := yields_bind_iff.mp h
    obtain ⟨rfl, rfl⟩ := yields_pure_iff.mp h
    exact ⟨body, rfl, hrealizes, expectClose_yields hp₂ hclose⟩

end Parentheses

/-! ## The cases of the grammar -/

/-- Reading a sequence on from the text yields the items before it and the words of the
language. -/
def SequenceReads (t : Text) (L : Language CodePoint) : Prop :=
  ∀ {first items M rest r q}, Item.Realize items M → Ends rest →
    ReadsOn first items (t ++ rest) r q → Search.Realizes r.search (M * L) ∧ q.At rest

/-- Reading on from the text adds an item that takes the words of the language. -/
def AtomReads (s : Text) (L : Language CodePoint) : Prop :=
  ∀ {first items rest r q}, (s = "\x7b" → ¬ Opens rest) → ReadsOn first items (s ++ rest) r q →
    ∃ item : Item, Search.Realizes item.pattern.search L ∧ ReadsOn first (item :: items) rest r q

theorem Ends.fresh (h : Ends t) : Fresh t := by
  intro c hc
  rcases h c hc with rfl | rfl <;> decide

theorem Ends.not_opens {u : Text} (hends : Ends u) (ht : ¬ Opens t) : ¬ Opens (t ++ u) := by
  rintro ⟨b, v, least, greatest, heq, hb⟩
  rcases List.append_eq_append_iff.mp heq with ⟨w, rfl, rfl⟩ | ⟨w, rfl, rfl⟩
  · cases w with
    | nil => exact ht ⟨t, [], _, _, (List.append_nil t).symm, by rwa [List.append_nil] at hb⟩
    | cons c w =>
      -- what would end the sequence does not occur in bounds
      have hc := hb.mem (List.mem_append_right t List.mem_cons_self)
      rcases hends c rfl with rfl | rfl <;> revert hc <;> decide
  · exact ht ⟨b, w, _, _, rfl, hb⟩

theorem alternativesRead_sequence (ht : SequenceReads t L) : AlternativesRead t L := by
  intro fuel whole first p r q rest hrest hp h
  obtain _ | fuel := fuel
  · exact absurd h not_yields_fail
  · rw [readAlternatives] at h
    obtain ⟨only, p₁, honly, h⟩ := yields_bind_iff.mp h
    obtain ⟨hrealizes, hp₁⟩ := ht .nil (fun c hc => Or.inr (hrest c hc)) ⟨fuel, p, hp, honly⟩
    obtain ⟨bar, p₂, hbar, h⟩ := yields_bind_iff.mp h
    have hhead : rest.head? ≠ some (CodePoint.ofChar '|') :=
      fun hhead => absurd (hrest _ hhead) (by decide)
    obtain ⟨rfl, rfl⟩ := accept_other (by decide) hp₁ hhead hbar
    obtain ⟨rfl, rfl⟩ := yields_pure_iff.mp h
    rw [one_mul] at hrealizes
    exact ⟨hrealizes, hp₁⟩

theorem alternativesRead_either (hs : SequenceReads s L) (ht : AlternativesRead t M) :
    AlternativesRead (s ++ CodePoint.ofChar '|' :: t) (L + M) := by
  intro fuel whole first p r q rest hrest hp h
  obtain _ | fuel := fuel
  · exact absurd h not_yields_fail
  · rw [List.append_assoc] at hp
    rw [readAlternatives] at h
    obtain ⟨left, p₁, hleft, h⟩ := yields_bind_iff.mp h
    obtain ⟨hrealizes, hp₁⟩ := hs .nil (by rintro _ ⟨⟩; exact Or.inl rfl) ⟨fuel, p, hp, hleft⟩
    obtain ⟨bar, p₂, hbar, h⟩ := yields_bind_iff.mp h
    obtain ⟨rfl, hp₂⟩ := accept_self (by decide) hp₁ hbar
    -- the options of the whole pattern, which it may have set, are still the default
    have hothers :
        Yields (do return .alt left (← readAlternatives fuel {} whole false)) p₂ r q := by
      cases whole with
      | false => exact h
      | true =>
        rw [← hp₂.options]
        exact h
    obtain ⟨right, p₃, hright, hothers⟩ := yields_bind_iff.mp hothers
    obtain ⟨hrealizes', hp₃⟩ := ht hrest hp₂ hright
    obtain ⟨rfl, rfl⟩ := yields_pure_iff.mp hothers
    rw [one_mul] at hrealizes
    exact ⟨realizes_alt hrealizes hrealizes', hp₃⟩

theorem sequenceReads_empty : SequenceReads [] 1 := by
  intro first items M rest r q hitems hends h
  obtain ⟨rfl, hq⟩ := ReadsOn.ends (t := rest) hends h
  rw [mul_one]
  exact ⟨hitems.join, hq⟩

theorem sequenceReads_item (hs : AtomReads s L) (brace : s = "\x7b" → ¬ Opens t)
    (ht : SequenceReads t M) : SequenceReads (s ++ t) (L * M) := by
  intro first items N rest r q hitems hends h
  rw [List.append_assoc] at h
  obtain ⟨item, hitem, h⟩ := hs (fun hs => hends.not_opens (brace hs)) h
  rw [← mul_assoc]
  exact ht (hitems.cons hitem) hends h

theorem sequenceReads_repeated {u mark : Text} {least : Nat} {greatest : Option Nat}
    (hs : AtomReads s L) (quantifier : Quantifier u least greatest) (preference : Preference mark)
    (hfresh : Fresh t) (ht : SequenceReads t M) :
    SequenceReads (s ++ (u ++ (mark ++ t))) (repetition least greatest L * M) := by
  intro first items N rest r q hitems hends h
  simp only [List.append_assoc] at h
  obtain ⟨item, hitem, h⟩ := hs (fun _ => quantifier.not_opens) h
  obtain ⟨greed, hgreed, hwithin, h⟩ :=
    h.quantifier quantifier preference (hfresh.append hends.fresh)
  rw [← mul_assoc]
  exact ht (hitems.cons (times_realizes hitem hgreed hwithin)) hends h

theorem atomReads_literal (plain : c ∉ special) : AtomReads [c] (single {c}) := by
  intro first items rest r q hbrace h
  refine ⟨_, ?_, h.literal plain fun hc => hbrace (by rw [hc]; rfl)⟩
  rw [pattern_ofPattern]
  exact literal_realizes

theorem atomReads_escaped (letter : c.isAsciiLetter = false) (digit : c.isAsciiDigit = false) :
    AtomReads ['\\', c] (single {c}) := by
  intro first items rest r q _ h
  refine ⟨_, ?_, h.escaped letter digit⟩
  rw [pattern_ofPattern]
  exact literal_realizes

theorem atomReads_dot : AtomReads "." (single {c | c ≠ CodePoint.ofChar '\n'}) := by
  intro first items rest r q _ h
  refine ⟨_, ?_, h.dot⟩
  rw [pattern_ofPattern]
  exact notNewline_realizes

theorem atomReads_set {S : Set CodePoint} (members : Members true t S)
    (plain : t.head? ≠ some (CodePoint.ofChar '^')) :
    AtomReads (CodePoint.ofChar '[' :: t) (single S) := by
  intro first items rest r q _ h
  obtain ⟨body, p, p', hp, hbody, h⟩ := h.set
  obtain ⟨hrealizes, hp'⟩ := readSet_plain members plain hp hbody
  refine ⟨_, ?_, h rest hp'⟩
  rwa [pattern_ofPattern]

theorem atomReads_complement {S : Set CodePoint} (members : Members true t S) :
    AtomReads (CodePoint.ofChar '[' :: CodePoint.ofChar '^' :: t) (single Sᶜ) := by
  intro first items rest r q _ h
  obtain ⟨body, p, p', hp, hbody, h⟩ := h.set
  obtain ⟨hrealizes, hp'⟩ := readSet_complement members hp hbody
  refine ⟨_, ?_, h rest hp'⟩
  rwa [pattern_ofPattern]

theorem atomReads_capture (hfresh : Fresh t) (ht : AlternativesRead t L) :
    AtomReads (CodePoint.ofChar '(' :: (t ++ (")" : Text))) L := by
  intro first items rest r q _ h
  rw [List.cons_append, List.append_assoc] at h
  obtain ⟨fuel, start, p, piece, p', hp, hpiece, h⟩ := h.parenthesis
  obtain ⟨body, rfl, hrealizes, hp'⟩ := readParenthesis_capture ht hfresh hp hpiece
  exact ⟨_, hrealizes, h body rest rfl hp'⟩

theorem atomReads_named {name : Text} (plain : ∀ c ∈ name, c ≠ '\\' ∧ c ≠ '>')
    (ht : AlternativesRead t L) :
    AtomReads (CodePoint.ofChar '(' :: CodePoint.ofChar '?' :: CodePoint.ofChar 'P' ::
      CodePoint.ofChar '<' :: (name ++ CodePoint.ofChar '>' :: (t ++ (")" : Text)))) L := by
  intro first items rest r q _ h
  simp only [List.cons_append, List.append_assoc] at h
  obtain ⟨fuel, start, p, piece, p', hp, hpiece, h⟩ := h.parenthesis
  obtain ⟨body, rfl, hrealizes, hp'⟩ := readParenthesis_named ht plain hp hpiece
  exact ⟨_, hrealizes, h body rest rfl hp'⟩

theorem atomReads_group (ht : AlternativesRead t L) :
    AtomReads (CodePoint.ofChar '(' :: CodePoint.ofChar '?' :: CodePoint.ofChar ':' ::
      (t ++ (")" : Text))) L := by
  intro first items rest r q _ h
  simp only [List.cons_append, List.append_assoc] at h
  obtain ⟨fuel, start, p, piece, p', hp, hpiece, h⟩ := h.parenthesis
  obtain ⟨body, rfl, hrealizes, hp'⟩ := readParenthesis_group ht hp hpiece
  exact ⟨_, hrealizes, h body rest rfl hp'⟩

/-! ## The induction -/

mutual

/-- The induction is on the grammar: each case reads its parts. -/
theorem Denotes.reads {t : Text} {L : Language CodePoint} : Denotes t L → AlternativesRead t L
  | .sequence only => alternativesRead_sequence only.reads
  | .either first others => alternativesRead_either first.reads others.reads

theorem Sequence.reads {t : Text} {L : Language CodePoint} : Sequence t L → SequenceReads t L
  | .empty => sequenceReads_empty
  | .item first brace others => sequenceReads_item first.reads brace others.reads
  | .repeated first quantifier preference others =>
    sequenceReads_repeated first.reads quantifier preference others.fresh others.reads

theorem Atom.reads {s : Text} {L : Language CodePoint} : Atom s L → AtomReads s L
  | .literal plain => atomReads_literal plain
  | .escaped letter digit => atomReads_escaped letter digit
  | .dot => atomReads_dot
  | .set members plain => atomReads_set members plain
  | .complement members => atomReads_complement members
  | .capture body => atomReads_capture body.fresh body.reads
  | .named plain body => atomReads_named plain body.reads
  | .group body => atomReads_group body.reads

end

/-! ## Whole patterns -/

theorem readPattern_yields {r : Pattern} (ht : Denotes t L) (hp : p.At t)
    (h : Yields (readPattern t) p r q) : Search.Realizes r.search L := by
  obtain ⟨_, p₁, hlone, h⟩ := yields_bind_iff.mp h
  obtain rfl := refuseLoneBackslash_keeps hlone
  obtain ⟨tree, p₂, htree, h⟩ := yields_bind_iff.mp h
  have hp' : p.At (t ++ []) := by rwa [List.append_nil]
  obtain ⟨hrealizes, -⟩ := ht.reads (by rintro _ ⟨⟩) hp' htree
  rw [yields_get_bind_iff] at h
  obtain ⟨-, h⟩ := of_yields_check (fun _ _ => not_yields_throw) h
  obtain ⟨-, h⟩ := of_yields_check (fun _ _ => not_yields_fail) h
  have hdone : tree = r := by
    revert h
    split
    · exact fun h => absurd h not_yields_failAt
    · exact fun h => (yields_pure_iff.mp h).1
  exact hdone ▸ hrealizes

/-- A pattern of the grammar that can be read describes the words of its language, and no other
text. -/
theorem describes_compile {v : Text} (ht : Denotes t L) (h : compile t = .ok r) :
    r.describes v = true ↔ v ∈ L := by
  unfold compile at h
  cases hread : (readPattern t).run { rest := t, position := 0 } with
  | error e =>
    rw [hread] at h
    cases h
  | ok done =>
    obtain ⟨tree, done⟩ := done
    have hrealizes := readPattern_yields ht ⟨rfl, rfl⟩ hread
    rw [hread] at h
    have hdone : tree = r := by
      revert h
      simp only [bind, Except.bind]
      split
      · rintro ⟨⟩
      · rintro ⟨⟩
        rfl
    exact describes_iff (hdone ▸ hrealizes) v

end StepUp.Pattern
