import Mathlib.Computability.Language
import StepUp.Pattern.Matcher

/-!
# What a search finds

A search hands every way to describe a stretch of text to a continuation, in an order of
preference. Whether it succeeds does not depend on the order: it succeeds just if the text begins
with a word of some language and the continuation accepts what is left behind it
(`Search.Realizes`). So each alternative and each number of iterations gets its chance. Iterations
that move nowhere are not repeated, and leaving them out loses no word
(`Search.Loops.realizes`).

The trees of this module are those that look at nothing but the text in front of them: no anchors,
no references and nothing that cannot be taken back.
-/

namespace StepUp.Pattern

/-! ## Words in front of a text -/

/-- The texts that begin with a word of the language, with something behind it that has the
property. -/
def FollowedBy (L : Language CodePoint) (P : Text → Prop) (t : Text) : Prop :=
  ∃ u v, t = u ++ v ∧ u ∈ L ∧ P v

section FollowedBy

variable {L M : Language CodePoint} {P Q : Text → Prop} {t : Text}

theorem followedBy_one_iff : FollowedBy 1 P t ↔ P t := by
  constructor
  · rintro ⟨u, v, rfl, hu, hv⟩
    rw [Language.mem_one] at hu
    subst hu
    exact hv
  · intro h
    exact ⟨[], t, rfl, Language.nil_mem_one, h⟩

theorem followedBy_mul_iff : FollowedBy (L * M) P t ↔ FollowedBy L (FollowedBy M P) t := by
  constructor
  · rintro ⟨_, w, rfl, hmul, hw⟩
    obtain ⟨u, hu, v, hv, rfl⟩ := Language.mem_mul.mp hmul
    exact ⟨u, v ++ w, List.append_assoc u v w, hu, v, w, rfl, hv, hw⟩
  · rintro ⟨u, _, rfl, hu, v, w, rfl, hv, hw⟩
    exact ⟨u ++ v, w, (List.append_assoc u v w).symm, Language.mem_mul.mpr ⟨u, hu, v, hv, rfl⟩, hw⟩

theorem followedBy_add_iff : FollowedBy (L + M) P t ↔ FollowedBy L P t ∨ FollowedBy M P t := by
  constructor
  · rintro ⟨u, v, rfl, hu | hu, hv⟩
    · exact Or.inl ⟨u, v, rfl, hu, hv⟩
    · exact Or.inr ⟨u, v, rfl, hu, hv⟩
  · rintro (⟨u, v, rfl, hu, hv⟩ | ⟨u, v, rfl, hu, hv⟩)
    · exact ⟨u, v, rfl, Or.inl hu, hv⟩
    · exact ⟨u, v, rfl, Or.inr hu, hv⟩

theorem followedBy_nil_iff : FollowedBy L (· = []) t ↔ t ∈ L := by
  constructor
  · rintro ⟨u, v, rfl, hu, rfl⟩
    rwa [List.append_nil]
  · intro h
    exact ⟨t, [], (List.append_nil t).symm, h, rfl⟩

end FollowedBy

/-- The words of one code point. -/
def single (S : Set CodePoint) : Language CodePoint := {w | ∃ c ∈ S, w = [c]}

theorem followedBy_single_iff {S : Set CodePoint} {P : Text → Prop} {t : Text} :
    FollowedBy (single S) P t ↔ ∃ c v, t = c :: v ∧ c ∈ S ∧ P v := by
  constructor
  · rintro ⟨_, v, rfl, ⟨c, hc, rfl⟩, hv⟩
    exact ⟨c, v, rfl, hc, hv⟩
  · rintro ⟨c, v, rfl, hc, hv⟩
    exact ⟨[c], v, rfl, ⟨c, hc, rfl⟩, hv⟩

/-! ## Continuations and searches -/

/-- The spot counts what is left of the text. -/
def Spot.Sound (s : Spot) : Prop := s.left = s.after.length

/-- With at most `n` code points left, the continuation accepts a spot just if what is left of the
text has the property. -/
def Decides (n : Nat) (k : Spot → Option Spot) (P : Text → Prop) : Prop :=
  ∀ s : Spot, s.Sound → s.left ≤ n → ((k s).isSome = true ↔ P s.after)

/-- The search takes the words of the language, whatever the continuation asks of what is left. -/
def Search.Realizes (f : Search) (L : Language CodePoint) : Prop :=
  ∀ n k P, Decides n k P → Decides n (f · k) (FollowedBy L P)

theorem Decides.congr {n : Nat} {k : Spot → Option Spot} {P Q : Text → Prop} (h : Decides n k P)
    (hPQ : ∀ t, P t ↔ Q t) : Decides n k Q :=
  fun s hs hn => (h s hs hn).trans (hPQ s.after)

section Trees

variable {p q : Pattern} {L M : Language CodePoint}

theorem realizes_empty : Search.Realizes Pattern.empty.search 1 :=
  fun _ _ _ h => h.congr fun _ => followedBy_one_iff.symm

theorem realizes_one (test : CharTest) :
    Search.Realizes (Pattern.one test).search (single {c | test.accepts c = true}) := by
  intro n k P h s hs hn
  rw [followedBy_single_iff]
  cases hafter : s.after with
  | nil => simp [search, hafter]
  | cons c rest =>
    have hleft : s.left = rest.length + 1 := by
      rw [hs, hafter, List.length_cons]
    have hnext : (s.advance c rest).Sound ∧ (s.advance c rest).left ≤ n := by
      simp only [Spot.Sound, Spot.advance]
      omega
    have hk := h (s.advance c rest) hnext.1 hnext.2
    cases haccepts : test.accepts c with
    | false =>
      simp only [search, hafter, haccepts]
      refine ⟨(by rintro ⟨⟩), ?_⟩
      rintro ⟨d, v, heq, hd, -⟩
      cases heq
      cases haccepts.symm.trans hd
    | true =>
      simp only [search, hafter, haccepts, if_true]
      rw [hk]
      constructor
      · intro hP
        exact ⟨c, rest, rfl, haccepts, hP⟩
      · rintro ⟨d, v, heq, -, hP⟩
        cases heq
        exact hP

theorem realizes_seq (hp : Search.Realizes p.search L) (hq : Search.Realizes q.search M) :
    Search.Realizes (Pattern.seq p q).search (L * M) :=
  fun n k P h => (hp n _ _ (hq n k P h)).congr fun _ => followedBy_mul_iff.symm

theorem realizes_alt (hp : Search.Realizes p.search L) (hq : Search.Realizes q.search M) :
    Search.Realizes (Pattern.alt p q).search (L + M) := by
  intro n k P h s hs hn
  have hfirst := hp n k P h s hs hn
  have hsecond := hq n k P h s hs hn
  rw [followedBy_add_iff, ← hfirst, ← hsecond]
  simp only [search]
  cases p.search s k <;> simp

theorem realizes_capture (group : Nat) (hp : Search.Realizes p.search L) :
    Search.Realizes (Pattern.capture group p).search L := by
  intro n k P h
  have hleave : Decides n (fun s => k (s.leave group)) P := by
    intro s hs hn
    have hsame : (s.leave group).after = s.after ∧ (s.leave group).left = s.left := by
      unfold Spot.leave
      split <;> exact ⟨rfl, rfl⟩
    have hk := h (s.leave group) (by rw [Spot.Sound, hsame.1, hsame.2]; exact hs)
      (hsame.2.trans_le hn)
    rwa [hsame.1] at hk
  intro s hs hn
  exact hp n _ _ hleave (s.enter group) hs hn

end Trees

/-! ## Repetitions -/

/-- The number respects the bound, if there is one. -/
def Within (bound : Option Nat) (n : Nat) : Prop := ∀ b ∈ bound, n ≤ b

theorem within_none {n : Nat} : Within none n := by
  rintro _ ⟨⟩

/-- At most as many words of the language as the bound allows, one behind the other. -/
def upTo (bound : Option Nat) (L : Language CodePoint) : Language CodePoint :=
  {w | ∃ n, Within bound n ∧ w ∈ L ^ n}

/-- Between the bounds words of the language, one behind the other. -/
def repetition (least : Nat) (greatest : Option Nat) (L : Language CodePoint) :
    Language CodePoint :=
  {w | ∃ n, least ≤ n ∧ Within greatest n ∧ w ∈ L ^ n}

section Repetitions

variable {f : Search} {L : Language CodePoint} {bound : Option Nat}

/-- Several words in a row are nothing at all, or begin with one that is not empty. -/
theorem eq_nil_or_of_mem_pow {n : Nat} {w : Text} (h : w ∈ L ^ n) :
    w = [] ∨ ∃ u v m, w = u ++ v ∧ u ≠ [] ∧ u ∈ L ∧ v ∈ L ^ m ∧ m + 1 ≤ n := by
  induction n with
  | zero =>
    rw [pow_zero, Language.mem_one] at h
    exact Or.inl h
  | succ n ih =>
    rw [pow_succ'] at h
    obtain ⟨u, hu, v, hv, rfl⟩ := Language.mem_mul.mp h
    by_cases hnil : u = []
    · subst hnil
      rcases ih hv with hv | ⟨u, v', m, rfl, hne, hu', hv', hm⟩
      · exact Or.inl hv
      · exact Or.inr ⟨u, v', m, rfl, hne, hu', hv', Nat.le_succ_of_le hm⟩
    · exact Or.inr ⟨u, v, n, rfl, hnil, hu, hv, Nat.le_refl _⟩

theorem exactly_realizes (hf : f.Realizes L) (n : Nat) : (f.exactly n).Realizes (L ^ n) := by
  induction n with
  | zero =>
    rw [pow_zero]
    exact fun _ _ _ h => h.congr fun _ => followedBy_one_iff.symm
  | succ n ih =>
    rw [pow_succ']
    exact fun m k P h => (hf m _ _ (ih m k P h)).congr fun _ => followedBy_mul_iff.symm

/-- A loop succeeds where the continuation does, and where an iteration leads to a place where the
loop does. It goes on as long as the bound allows and the last iteration moved. -/
def Search.Loops (f : Search) (loop : Nat → Option Nat → Option Nat → Search) : Prop :=
  ∀ fuel bound last s k, (loop (fuel + 1) bound last s k).isSome = true ↔
    (k s).isSome = true ∨ ¬ (bound = some 0 ∨ last = some s.left) ∧
      (f s fun s' => loop fuel (bound.map (· - 1)) (some s.left) s' k).isSome = true

theorem loops_greedily (f : Search) : f.Loops f.greedily := by
  intro fuel bound last s k
  rw [Search.greedily]
  by_cases hstop : bound = some 0 ∨ last = some s.left
  · simp [hstop]
  · simp only [hstop, not_false_eq_true, true_and, decide_eq_true_eq, Bool.or_eq_true, if_false]
    cases f s fun s' => f.greedily fuel (bound.map (· - 1)) (some s.left) s' k <;> simp

theorem loops_lazily (f : Search) : f.Loops f.lazily := by
  intro fuel bound last s k
  rw [Search.lazily]
  by_cases hstop : bound = some 0 ∨ last = some s.left
  · cases k s <;> simp [hstop]
  · simp only [hstop, not_false_eq_true, true_and, decide_eq_true_eq, Bool.or_eq_true, if_false]
    cases k s <;> simp

variable {loop : Nat → Option Nat → Option Nat → Search} {n : Nat} {k : Spot → Option Spot}
  {P : Text → Prop}

/-- A loop that has not moved since the iteration before stops. -/
theorem Search.Loops.of_unmoved (hloop : f.Loops loop) {fuel : Nat} (hfuel : 0 < fuel)
    (bound : Option Nat) (s : Spot) :
    (loop fuel bound (some s.left) s k).isSome = true ↔ (k s).isSome = true := by
  obtain ⟨fuel, rfl⟩ := Nat.exists_eq_succ_of_ne_zero hfuel.ne'
  rw [hloop]
  simp

theorem upTo_zero : upTo (some 0) L = 1 := by
  ext w
  rw [Language.mem_one]
  constructor
  · rintro ⟨n, hn, hw⟩
    rw [Nat.le_zero.mp (hn 0 rfl), pow_zero, Language.mem_one] at hw
    exact hw
  · rintro rfl
    exact ⟨0, fun _ _ => Nat.zero_le _, Language.nil_mem_one⟩

/-- One more iteration is an iteration that moves, and what the bound still allows behind it. -/
theorem followedBy_upTo_iff {t : Text} (hbound : bound ≠ some 0) :
    FollowedBy (upTo bound L) P t ↔ P t ∨ FollowedBy L (fun v =>
      v.length < t.length ∧ FollowedBy (upTo (bound.map (· - 1)) L) P v) t := by
  have hmore : ∀ m, Within (bound.map (· - 1)) m ↔ Within bound (m + 1) := by
    intro m
    cases bound with
    | none => simp [Within]
    | some b =>
      have hb : b ≠ 0 := fun hb => hbound (congrArg some hb)
      simp only [Within, Option.map_some, Option.mem_def, Option.some.injEq, forall_eq']
      omega
  constructor
  · rintro ⟨w, v, rfl, ⟨m, hm, hw⟩, hv⟩
    rcases eq_nil_or_of_mem_pow hw with rfl | ⟨u, u', j, rfl, hne, hu, hu', hj⟩
    · exact Or.inl hv
    · have hlength : 0 < u.length := List.length_pos_of_ne_nil hne
      refine Or.inr ⟨u, u' ++ v, List.append_assoc u u' v, hu, ?_, u', v, rfl, ⟨j, ?_, hu'⟩, hv⟩
      · simp only [List.length_append]
        omega
      · exact (hmore j).mpr fun b hb => hj.trans (hm b hb)
  · rintro (h | ⟨u, _, rfl, hu, -, w, v, rfl, ⟨m, hm, hw⟩, hv⟩)
    · exact ⟨[], t, rfl, ⟨0, fun _ _ => Nat.zero_le _, Language.nil_mem_one⟩, h⟩
    · refine ⟨u ++ w, v, (List.append_assoc u w v).symm, ⟨m + 1, (hmore m).mp hm, ?_⟩, hv⟩
      rw [pow_succ']
      exact Language.mem_mul.mpr ⟨u, hu, w, hw, rfl⟩

/-- The induction is on the fuel. An iteration that moves leaves less of the text and enough fuel
for it; one that does not move ends the loop. -/
theorem Search.Loops.isSome_iff (hloop : f.Loops loop) (hf : f.Realizes L) (hk : Decides n k P)
    {fuel : Nat} {bound last : Option Nat} {s : Spot} (hs : s.Sound) (hn : s.left ≤ n)
    (hfuel : s.left + 2 ≤ fuel) (hlast : last ≠ some s.left) :
    (loop fuel bound last s k).isSome = true ↔ FollowedBy (upTo bound L) P s.after := by
  induction fuel generalizing bound last s with
  | zero => omega
  | succ fuel ih =>
    let more : Text → Prop := FollowedBy (upTo (bound.map (· - 1)) L) P
    have hnext : Decides s.left (fun s' => loop fuel (bound.map (· - 1)) (some s.left) s' k)
        fun v => v.length < s.left ∧ more v ∨ v.length = s.left ∧ P v := by
      intro s' hs' hle
      dsimp only
      rw [← hs']
      by_cases hmoved : s'.left < s.left
      · have hrest : (loop fuel (bound.map (· - 1)) (some s.left) s' k).isSome = true ↔
            more s'.after := ih hs' (hle.trans hn) (by omega) (by simpa using hmoved.ne')
        rw [hrest]
        simp [hmoved, hmoved.ne]
      · have hsame : s'.left = s.left := by omega
        rw [← hsame, hloop.of_unmoved (by omega), hk s' hs' (hle.trans hn)]
        simp
    rw [hloop, hk s hs hn]
    by_cases hbound : bound = some 0
    · rw [hbound, upTo_zero, followedBy_one_iff]
      simp
    · have hbody := hf s.left _ _ hnext s hs (Nat.le_refl _)
      rw [followedBy_upTo_iff hbound, hbody, ← hs]
      constructor
      · rintro (h | ⟨-, u, v, huv, hu, ⟨hlt, hv⟩ | ⟨heq, hv⟩⟩)
        · exact Or.inl h
        · exact Or.inr ⟨u, v, huv, hu, hlt, hv⟩
        · have hlength := congrArg List.length huv
          rw [List.length_append, ← hs] at hlength
          have hnil : u = [] := List.eq_nil_of_length_eq_zero (by omega)
          rw [huv, hnil]
          exact Or.inl hv
      · rintro (h | ⟨u, v, huv, hu, hlt, hv⟩)
        · exact Or.inl h
        · exact Or.inr ⟨by simp [hbound, hlast], u, v, huv, hu, Or.inl ⟨hlt, hv⟩⟩

/-- A loop with enough fuel takes as many words as its bound allows. -/
theorem Search.Loops.realizes (hloop : f.Loops loop) (hf : f.Realizes L) (bound : Option Nat) :
    Search.Realizes (fun s k => loop (s.left + 2) bound none s k) (upTo bound L) :=
  fun _ _ _ h _ hs hn => hloop.isSome_iff hf h hs hn (Nat.le_refl _) (Option.some_ne_none _).symm

theorem pow_mul_upTo {least : Nat} {greatest : Option Nat} (h : Within greatest least) :
    L ^ least * upTo (greatest.map (· - least)) L = repetition least greatest L := by
  have hmore : ∀ m, Within (greatest.map (· - least)) m ↔ Within greatest (least + m) := by
    intro m
    cases greatest with
    | none => simp [Within]
    | some b =>
      have hb : least ≤ b := h b rfl
      simp only [Within, Option.map_some, Option.mem_def, Option.some.injEq, forall_eq']
      omega
  ext w
  constructor
  · intro hw
    obtain ⟨u, hu, v, ⟨m, hm, hv⟩, rfl⟩ := Language.mem_mul.mp hw
    refine ⟨least + m, Nat.le_add_right _ _, (hmore m).mp hm, ?_⟩
    rw [pow_add]
    exact Language.mem_mul.mpr ⟨u, hu, v, hv, rfl⟩
  · rintro ⟨n, hle, hn, hw⟩
    obtain ⟨m, rfl⟩ := Nat.exists_eq_add_of_le hle
    rw [pow_add] at hw
    obtain ⟨u, hu, v, hv, rfl⟩ := Language.mem_mul.mp hw
    exact Language.mem_mul.mpr ⟨u, hu, v, ⟨m, (hmore m).mpr hn, hv⟩, rfl⟩

theorem times_realizes {greed : Greed} {least : Nat} {greatest : Option Nat} {p : Pattern}
    (hp : Search.Realizes p.search L) (hgreed : greed ≠ .possessive)
    (hbounds : Within greatest least) :
    Search.Realizes (Pattern.times greed least greatest p).search
      (repetition least greatest L) := by
  have hexactly := exactly_realizes hp least
  rw [← pow_mul_upTo hbounds]
  intro n k P h
  cases greed with
  | greedy =>
    have hloop := (loops_greedily p.search).realizes hp (greatest.map (· - least))
    exact (hexactly n _ _ (hloop n k P h)).congr fun _ => followedBy_mul_iff.symm
  | lazy =>
    have hloop := (loops_lazily p.search).realizes hp (greatest.map (· - least))
    exact (hexactly n _ _ (hloop n k P h)).congr fun _ => followedBy_mul_iff.symm
  | possessive => exact absurd rfl hgreed

end Repetitions

/-! ## Whole texts -/

/-- A pattern describes the words of the language that its search takes. -/
theorem describes_iff {p : Pattern} {L : Language CodePoint} (h : Search.Realizes p.search L)
    (t : Text) : p.describes t = true ↔ t ∈ L := by
  have hend : Decides t.length (fun s => if s.after.isEmpty then some s else none) (· = []) := by
    intro s _ _
    cases hafter : s.after <;> simp [hafter]
  have hsearch := h t.length _ _ hend (.start t) rfl (Nat.le_refl _)
  rw [followedBy_nil_iff] at hsearch
  exact hsearch

end StepUp.Pattern
