import StepUp.Pattern.Parser
import StepUp.Proofs.Pattern.Grammar

/-!
# What a reader that succeeds has read

A successful run of a reader is taken apart into the runs that it is made of
(`Reader.yields_bind_iff`). Of the progress of a reader only the text that is left and the options
matter here (`Progress.At`): each lemma says what a token reader yields in front of a known text,
and what it leaves.
-/

namespace StepUp.Pattern

namespace Reader

/-- The reader succeeds with this result and this progress. -/
def Yields {α : Type} (x : Reader α) (p : Progress) (a : α) (q : Progress) : Prop :=
  x p = .ok (a, q)

section Runs

variable {α β : Type} {p q r : Progress} {a : α} {b : β} {x y : Reader α} {f : α → Reader β}

theorem yields_pure_iff {a' : α} : Yields (pure a') p a q ↔ a' = a ∧ p = q := by
  constructor
  · intro h
    cases h
    exact ⟨rfl, rfl⟩
  · rintro ⟨rfl, rfl⟩
    rfl

theorem yields_bind_iff : Yields (x >>= f) p b r ↔ ∃ a q, Yields x p a q ∧ Yields (f a) q b r := by
  simp only [Yields, bind, StateT.bind]
  cases hx : x p with
  | error e =>
    constructor
    · rintro ⟨⟩
    · rintro ⟨_, _, ⟨⟩, -⟩
  | ok aq =>
    obtain ⟨a, q⟩ := aq
    constructor
    · intro h
      exact ⟨a, q, rfl, h⟩
    · rintro ⟨_, _, ⟨⟩, h⟩
      exact h

theorem yields_get_bind_iff {f : Progress → Reader β} :
    Yields (get >>= f) p b r ↔ Yields (f p) p b r := Iff.rfl

theorem yields_set_bind_iff {f : PUnit → Reader β} :
    Yields (set q >>= f) p b r ↔ Yields (f ⟨⟩) q b r := Iff.rfl

theorem yields_modify_bind_iff {g : Progress → Progress} {f : PUnit → Reader β} :
    Yields (modify g >>= f) p b r ↔ Yields (f ⟨⟩) (g p) b r := Iff.rfl

theorem yields_peek_bind_iff {f : Option Text → Reader β} :
    Yields (peek >>= f) p b r ↔ Yields (f (tokenOf? p.rest)) p b r := Iff.rfl

theorem yields_ite_iff {c : Prop} [Decidable c] :
    Yields (if c then x else y) p a q ↔ c ∧ Yields x p a q ∨ ¬ c ∧ Yields y p a q := by
  by_cases hc : c <;> simp [hc]

theorem not_yields_throw {e : Refusal} : ¬ Yields (throw e : Reader α) p a q := by
  rintro ⟨⟩

theorem not_yields_failAt {c : Complaint} {n : Nat} : ¬ Yields (failAt c n : Reader α) p a q := by
  rintro ⟨⟩

theorem not_yields_fail {c : Complaint} {n : Nat} : ¬ Yields (fail c n : Reader α) p a q := by
  rintro ⟨⟩

theorem yields_ite_bind_iff {c : Prop} [Decidable c] :
    Yields (if c then x >>= f else y >>= f) p b r ↔
      ∃ a q, Yields (if c then x else y) p a q ∧ Yields (f a) q b r := by
  by_cases hc : c <;> simp only [hc, if_true, if_false, yields_bind_iff]

/-- What a check lets pass. -/
theorem of_yields_check {c : Prop} [Decidable c] {f : PUnit → Reader β} {x : Reader PUnit}
    (hx : ∀ u q, ¬ Yields x p u q) (h : Yields (if c then x >>= f else f ⟨⟩) p b r) :
    ¬ c ∧ Yields (f ⟨⟩) p b r := by
  rcases yields_ite_iff.mp h with ⟨-, hfail⟩ | hpass
  · obtain ⟨u, q, hu, -⟩ := yields_bind_iff.mp hfail
    exact absurd hu (hx u q)
  · exact hpass

end Runs

end Reader

open Reader

/-- The text is what is left to read, and no option is set. -/
structure Progress.At (p : Progress) (t : Text) : Prop where
  rest : p.rest = t
  options : p.options = {}

namespace Reader

variable {p q : Progress} {s t : Text} {c d : CodePoint}

/-! ## Tokens -/

theorem tokenOf?_rest (hs : Spells s c) (hp : p.At (s ++ t)) : tokenOf? p.rest = some s := by
  rw [hp.rest]
  cases hs with
  | plain unescaped => exact if_neg unescaped
  | escaped => rfl

theorem tokenOf?_eq_some_iff (hc : c ≠ '\\') : tokenOf? t = some [c] ↔ t.head? = some c := by
  cases t with
  | nil => simp [tokenOf?]
  | cons d more =>
    unfold tokenOf?
    by_cases hd : d = '\\'
    · subst hd
      simp [hc.symm]
    · simp [hd]

theorem eq_of_tokenOf? {more : Text} (h : tokenOf? (c :: t) = some (d :: more)) : d = c := by
  rw [tokenOf?] at h
  split at h <;> cases h <;> rfl

theorem refuseLoneBackslash_keeps {u : Unit} (h : Yields refuseLoneBackslash p u q) : p = q := by
  rw [refuseLoneBackslash, yields_get_bind_iff] at h
  rcases yields_ite_iff.mp h with ⟨-, hfail⟩ | ⟨-, hpass⟩
  · exact absurd hfail not_yields_failAt
  · exact (yields_pure_iff.mp hpass).2

theorem take_token {taken : Option Text} (hs : Spells s c) (hp : p.At (s ++ t))
    (h : Yields take p taken q) : taken = some s ∧ q.At t := by
  rw [take, yields_peek_bind_iff, tokenOf?_rest hs hp] at h
  dsimp only at h
  rw [yields_modify_bind_iff] at h
  obtain ⟨_, _, hkept, h⟩ := yields_bind_iff.mp h
  obtain ⟨rfl, rfl⟩ := yields_pure_iff.mp h
  rw [← refuseLoneBackslash_keeps hkept]
  exact ⟨rfl, by simp [hp.rest], hp.options⟩

theorem take_plain {taken : Option Text} (hc : c ≠ '\\') (hp : p.At (c :: t))
    (h : Yields take p taken q) : taken = some [c] ∧ q.At t :=
  take_token (.plain hc) hp h

theorem accept_cases {x : Char} {b : Bool} (hx : CodePoint.ofChar x ≠ '\\') (hp : p.At t)
    (h : Yields (accept x) p b q) :
    b = true ∧ (∃ more, t = CodePoint.ofChar x :: more ∧ q.At more) ∨
      b = false ∧ t.head? ≠ some (CodePoint.ofChar x) ∧ p = q := by
  rw [accept, yields_peek_bind_iff, hp.rest] at h
  rcases yields_ite_iff.mp h with ⟨hnext, haccept⟩ | ⟨hnext, hrefuse⟩
  · obtain ⟨more, rfl⟩ := List.head?_eq_some_iff.mp ((tokenOf?_eq_some_iff hx).mp hnext)
    obtain ⟨_, _, htake, hdone⟩ := yields_bind_iff.mp haccept
    obtain ⟨rfl, rfl⟩ := yields_pure_iff.mp hdone
    exact Or.inl ⟨rfl, more, rfl, (take_plain hx hp htake).2⟩
  · have hhead := mt (tokenOf?_eq_some_iff hx).mpr hnext
    obtain ⟨rfl, rfl⟩ := yields_pure_iff.mp hrefuse
    exact Or.inr ⟨rfl, hhead, rfl⟩

theorem accept_self {x : Char} {b : Bool} (hx : CodePoint.ofChar x ≠ '\\')
    (hp : p.At (CodePoint.ofChar x :: t)) (h : Yields (accept x) p b q) : b = true ∧ q.At t := by
  rcases accept_cases hx hp h with ⟨rfl, _, ⟨⟩, hq⟩ | ⟨-, hhead, -⟩
  · exact ⟨rfl, hq⟩
  · exact absurd rfl hhead

theorem accept_other {x : Char} {b : Bool} (hx : CodePoint.ofChar x ≠ '\\') (hp : p.At t)
    (hhead : t.head? ≠ some (CodePoint.ofChar x)) (h : Yields (accept x) p b q) :
    b = false ∧ p = q := by
  rcases accept_cases hx hp h with ⟨-, more, rfl, -⟩ | ⟨rfl, -, rfl⟩
  · exact absurd rfl hhead
  · exact ⟨rfl, rfl⟩

/-- All code points of the class that come next are taken, if there is fuel for them. -/
theorem takeWhile_all {inClass : CodePoint → Bool} (hescape : inClass '\\' = false) {n : Nat}
    {taken : Text} (hn : t.length ≤ n) (hp : p.At t) (h : Yields (takeWhile inClass n) p taken q) :
    taken = t.takeWhile inClass ∧ q.At (t.dropWhile inClass) := by
  induction n generalizing t p taken with
  | zero =>
    obtain rfl := List.eq_nil_of_length_eq_zero (Nat.le_zero.mp hn)
    obtain ⟨rfl, rfl⟩ := yields_pure_iff.mp h
    exact ⟨rfl, hp⟩
  | succ n ih =>
    rw [takeWhile, yields_peek_bind_iff, hp.rest] at h
    cases t with
    | nil =>
      obtain ⟨rfl, rfl⟩ := yields_pure_iff.mp h
      exact ⟨rfl, hp⟩
    | cons c more =>
      cases hc : inClass c with
      | true =>
        have hplain : c ≠ '\\' := by
          rintro rfl
          cases hescape.symm.trans hc
        rw [tokenOf?, if_neg hplain] at h
        simp only [hc, if_true] at h
        obtain ⟨_, _, htake, h⟩ := yields_bind_iff.mp h
        obtain ⟨_, _, htaken, h⟩ := yields_bind_iff.mp h
        obtain ⟨rfl, rfl⟩ := yields_pure_iff.mp h
        obtain ⟨rfl, hq⟩ := ih (Nat.le_of_succ_le_succ hn) (take_plain hplain hp htake).2 htaken
        rw [List.takeWhile_cons_of_pos hc, List.dropWhile_cons_of_pos hc]
        exact ⟨rfl, hq⟩
      | false =>
        have hnone : Yields (pure []) p taken q := by
          revert h
          split
          · next d hnext =>
            rw [eq_of_tokenOf? hnext, if_neg (by simp [hc])]
            exact id
          · exact id
        obtain ⟨rfl, rfl⟩ := yields_pure_iff.mp hnone
        rw [List.takeWhile_cons_of_neg (by simp [hc]), List.dropWhile_cons_of_neg (by simp [hc])]
        exact ⟨rfl, hp⟩

/-- A name without the terminator is read up to that. -/
theorem nameUntil_plain {x : Char} {what found name taken : Text} {n : Nat}
    (hx : CodePoint.ofChar x ≠ '\\') (hname : ∀ c ∈ name, c ≠ '\\' ∧ c ≠ CodePoint.ofChar x)
    (hn : name.length < n) (hp : p.At (name ++ CodePoint.ofChar x :: t))
    (h : Yields (nameUntil x what n found) p taken q) : q.At t := by
  induction name generalizing n p found with
  | nil =>
    obtain ⟨n, rfl⟩ := Nat.exists_eq_add_one.mpr hn
    obtain ⟨_, p₁, htake, h⟩ := yields_bind_iff.mp h
    obtain ⟨rfl, hp₁⟩ := take_plain hx hp htake
    dsimp only at h
    rw [if_pos rfl] at h
    rcases yields_ite_iff.mp h with ⟨-, hfail⟩ | ⟨-, hdone⟩
    · exact absurd hfail not_yields_fail
    · obtain ⟨rfl, rfl⟩ := yields_pure_iff.mp hdone
      exact hp₁
  | cons c name ih =>
    obtain ⟨n, rfl⟩ := Nat.exists_eq_add_one.mpr (Nat.lt_of_le_of_lt (Nat.zero_le _) hn)
    obtain ⟨hplain, hne⟩ := hname c List.mem_cons_self
    obtain ⟨_, p₁, htake, h⟩ := yields_bind_iff.mp h
    obtain ⟨rfl, hp₁⟩ := take_plain hplain hp htake
    dsimp only at h
    rw [if_neg (fun heq => hne (List.cons.inj heq).1)] at h
    exact ih (fun d hd => hname d (List.mem_cons_of_mem c hd)) (Nat.lt_of_succ_lt_succ hn) hp₁ h

theorem takeName_plain {x : Char} {what name taken : Text} (hx : CodePoint.ofChar x ≠ '\\')
    (hname : ∀ c ∈ name, c ≠ '\\' ∧ c ≠ CodePoint.ofChar x)
    (hp : p.At (name ++ CodePoint.ofChar x :: t)) (h : Yields (takeName x what) p taken q) :
    q.At t := by
  rw [takeName, yields_get_bind_iff] at h
  refine nameUntil_plain hx hname ?_ hp h
  rw [hp.rest, List.length_append]
  omega

theorem checkGroupName_keeps {name : Text} {u : Unit} (h : Yields (checkGroupName name) p u q) :
    p = q := by
  rcases yields_ite_iff.mp h with ⟨-, hfail⟩ | ⟨-, hpass⟩
  · exact absurd hfail not_yields_fail
  · exact (yields_pure_iff.mp hpass).2

end Reader

end StepUp.Pattern
