import StepUp.Proofs.Session.Frame
import StepUp.Proofs.Session.Run

/-!
# The requirement of a target

Resolutions and hosts write the requirement of a target, and neither writes over one:
`step_requirement` says so of every step that does not make the target anew, hence a run keeps
what was written (`before_requirement`). What a resolution writes or returns was proposed by the
resolver that it names and is a method of the registry (`step_resolve_answered`); no assumption
on the verifier is made, it may let through what it wants. `requirement_written_once` puts the two
together.
-/

namespace StepUp

/-- The step makes a new target of the name. -/
def SessionStep.Creates (m : Text) : SessionStep → Prop
  | .target m' _ | .extract _ m' _ => m' = m
  | _ => False

namespace Session

variable {s s' : Session} {n m k : Text} {p : Option Principal} {q : Requirement}
  {st : SessionStep}

/-- The requirement that the target of a name carries. -/
def requirement? (s : Session) (m : Text) : Option Requirement :=
  (s.targets.lookup m).join.bind TargetService.requirement

theorem requirement?_eq_some_iff : s.requirement? m = some q ↔
    ∃ t, s.targets.lookup m = some (some t) ∧ t.requirement = some q := by
  simp [requirement?, Option.bind_eq_some_iff, Option.join_eq_some_iff]

theorem requirement?_of_lookup {t : TargetService} (h : s.targets.lookup m = some (some t)) :
    s.requirement? m = t.requirement := by
  simp [requirement?, h]

theorem requirement?_congr (h : s'.targets.lookup m = s.targets.lookup m) :
    s'.requirement? m = s.requirement? m := by
  rw [requirement?, h, requirement?]

/-! ## One step -/

theorem step_requirement (hst : ¬ st.Creates m) (hq : s.requirement? m = some q) :
    (s.step st).1.requirement? m = some q := by
  by_cases hm : st.target? = some m
  · obtain ⟨t, ht, hreq⟩ := requirement?_eq_some_iff.mp hq
    cases st with
    | target _ _ | extract _ _ _ =>
      cases hm
      exact absurd rfl hst
    | resolve n _ p =>
      cases hm
      rcases s.step_resolve_targets n m p m with hsame | ⟨-, t', q', ht', bare, -, -⟩
      · rw [requirement?_congr hsame, hq]
      · cases ht.symm.trans ht'
        cases hreq.symm.trans bare
    | verify method n _ =>
      cases hm
      rcases s.step_verify_cases method n m with ⟨hsame, -⟩ | ⟨c, t', -, -, hstep⟩
      · rw [hsame, hq]
      · rw [hstep]
        exact hq
    | attach _ r =>
      cases hm
      have hstep : s.step (.attach m r) = s.refuse (.attach ⟨t.id, q⟩) := by
        simp only [step, withTarget_of_lookup ht, TargetService.attach?, hreq]
      rw [hstep]
      exact hq
    | showTarget _ =>
      cases hm
      rw [step, withTarget_of_lookup ht]
      exact hq
    | request _ _ | chain | addAuthentication _ _ | getAuthentication _ | findService _
      | setParameter _ _ _ | setFlow _ _ _ | getParameter _ _ | getTicket _ | setMarker _
      | hasMarker _ => cases hm
  · rw [requirement?_congr (step_targets_of_ne hm), hq]

/-- The requirement of a resolution comes from the resolver of the chain that settled the matter,
which proposed it, and from the registry, which has the method with this rank. -/
def Grounds (s : Session) (n m : Text) (p : Option Principal) (q : Requirement) : Prop :=
  ∃ c t r, s.contexts.lookup n = some c ∧ s.targets.lookup m = some (some t) ∧
    s.chain.Proposes (p.map Authentication.mk) t c r q.method.name ∧ q.source = r.source ∧
    q.method ∈ s.chain.verifier.registry.methods

/-- A resolution that returns a requirement had grounds for it, and the target carries it. -/
theorem step_resolve_answered
    (h : (s.step (.resolve n m p)).2.answer = .ok (.requirement (some q))) :
    s.Grounds n m p q ∧ (s.step (.resolve n m p)).1.requirement? m = some q := by
  rcases s.step_resolve_cases n m p with ⟨name, hstep⟩ | ⟨c, t, hc, ht, hstep⟩
  · rw [hstep] at h
    cases h
  · rw [hstep] at h ⊢
    have hends := s.chain.ends_resolve (p.map Authentication.mk) t c
    obtain ⟨t, r, rfl, proposed, hsource, member, -, htarget⟩ :=
      hends.of_required (resolve_answer_ok_iff.mp h)
    refine ⟨⟨c, t, r, hc, ht, proposed, hsource, member⟩, requirement?_eq_some_iff.mpr ?_⟩
    refine ⟨{ t with requirement := some q }, ?_, rfl⟩
    rw [resolve_targets_lookup, if_pos rfl]
    exact congrArg some htarget

/-- The requirements after a resolution are those before, and the one it returned. -/
theorem step_resolve_attached (h : (s.step (.resolve n m p)).1.requirement? k = some q) :
    s.requirement? k = some q ∨ k = m ∧ s.requirement? m = none ∧
      (s.step (.resolve n m p)).2.answer = .ok (.requirement (some q)) := by
  rcases s.step_resolve_targets n m p k with hsame | ⟨rfl, t, q', ht, bare, given, hanswer⟩
  · exact Or.inl (by rw [← requirement?_congr hsame, h])
  · rw [requirement?_of_lookup given] at h
    cases h
    exact Or.inr ⟨rfl, by rw [requirement?_of_lookup ht, bare], hanswer⟩

/-! ## Runs -/

theorem before_requirement {steps : List SessionStep} {i j : Nat} (hij : i ≤ j)
    (hkept : ∀ l st, i ≤ l → l < j → steps[l]? = some st → ¬ st.Creates m)
    (hq : (s.before steps i).requirement? m = some q) :
    (s.before steps j).requirement? m = some q := by
  induction j, hij using Nat.le_induction with
  | base => exact hq
  | succ j hij ih =>
    have hj := ih fun l st hil hlj => hkept l st hil (hlj.trans j.lt_succ_self)
    cases hst : steps[j]? with
    | none => rw [before_succ_of_none hst, hj]
    | some st =>
      rw [before_succ hst]
      exact step_requirement (hkept j st hij j.lt_succ_self hst) hj

/-- How a run treats the requirements of the targets. -/
structure WritesOnce (s : Session) (steps : List SessionStep) : Prop where
  /-- A requirement stays as long as its target is not made anew. -/
  kept : ∀ i j m q, i ≤ j →
    (∀ l st, i ≤ l → l < j → steps[l]? = some st → ¬ st.Creates m) →
      (s.before steps i).requirement? m = some q → (s.before steps j).requirement? m = some q
  /-- A requirement that a resolution returns is genuine, and the target carries it. -/
  returned : ∀ i n m p q, steps[i]? = some (.resolve n m p) →
    s.answerAt steps i = some (.ok (.requirement (some q))) →
      (s.before steps i).Grounds n m p q ∧ (s.before steps (i + 1)).requirement? m = some q
  /-- A resolution attaches nothing but what it returns, and that to its own target, which had
  no requirement. -/
  attached : ∀ i n m p k q, steps[i]? = some (.resolve n m p) →
    (s.before steps (i + 1)).requirement? k = some q →
      (s.before steps i).requirement? k = some q ∨
        k = m ∧ (s.before steps i).requirement? m = none ∧
          s.answerAt steps i = some (.ok (.requirement (some q)))

/-- **A requirement is written once.** Whatever steps a session takes, with whatever resolvers and
verifier: a target that has a requirement keeps it until the target is made anew, and the
requirements of resolutions are genuine. -/
theorem requirement_written_once (s : Session) (steps : List SessionStep) :
    s.WritesOnce steps where
  kept i j m q hij hkept hq := before_requirement hij hkept hq
  returned i n m p q hst h := by
    rw [answerAt_of_getElem? hst, Option.some.injEq] at h
    rw [before_succ hst]
    exact step_resolve_answered h
  attached i n m p k q hst h := by
    rw [before_succ hst] at h
    rw [answerAt_of_getElem? hst, Option.some.injEq]
    exact step_resolve_attached h

/-- A requirement outlives the resolution to another method and the attempt to attach a third. -/
theorem requirement_written_once_retina :
    let registry : Registry := ⟨[⟨"fingerprint", 2⟩, ⟨"retina", 1⟩], by decide⟩
    let chain : Chain := ⟨[.requestParameter "method"], { registry := registry }⟩
    let s : Session :=
      { assemble := fun _ => chain, services := .ofList [], store := .absent, sink := none }
    let steps : List SessionStep :=
      [.request "r" ⟨[("method", .str "fingerprint")], [], "r1", false⟩,
        .target "t" { id := "app" }, .resolve "r" "t" none,
        .setParameter "r" "method" (.str "retina"), .resolve "r" "t" none,
        .attach "t" ⟨⟨"sms", 9⟩, .mfaRole⟩]
    let q : Requirement := ⟨⟨"fingerprint", 2⟩, .requestParameter⟩
    (s.before steps 2).Grounds "r" "t" none q ∧
      ∀ i, 3 ≤ i → (s.before steps i).requirement? "t" = some q := by
  intro registry chain s steps q
  obtain ⟨kept, returned, -⟩ := requirement_written_once s steps
  obtain ⟨hgrounds, hq⟩ := returned 2 "r" "t" none q rfl rfl
  refine ⟨hgrounds, fun i hi => kept 3 i "t" q hi ?_ hq⟩
  intro l st hl _ hst
  rcases l with _ | _ | _ | _ | _ | _ | l
  · omega
  · omega
  · omega
  · cases hst
    exact id
  · cases hst
    exact id
  · cases hst
    exact id
  · cases hst

end Session

end StepUp
