import Mathlib.Data.Nat.Find
import StepUp.Proofs.Session.Run

/-!
# The marker of a request

Resolutions and verifications share one marker for each request. `VerifiesUnsupported` says that a
step brings an unsupported method before the verifier, `ReportsUnsupported` that it is answered
with a rejection. Of a single step:

* `step_of_unmarked`: an unsupported method is reported for a request that is not marked, which
  marks it;
* `step_of_marked`: it is let pass for one that is;
* `step_of_supported`: nothing else reports, and only a host that sets the marker changes it.

Along a run the marker is hence set just when an unsupported method was verified or a host set it
(`StartsFresh.marker_iff`). That is the invariant behind `unsupported_reported_once`.
-/

namespace StepUp

/-- The answers by which an unsupported method is reported. -/
inductive ReportsUnsupported : Except SessionFault SessionReply → Prop where
  | verify (r : Rejection) : ReportsUnsupported (.error (.rejected r))
  | resolve (r : Rejection) : ReportsUnsupported (.error (.resolution (.rejected r)))

theorem not_reportsUnsupported_ok (r : SessionReply) : ¬ ReportsUnsupported (.ok r) := nofun

namespace Session

/-- The step has the verifier look, for the request of a name, at a method that is not
supported. -/
inductive VerifiesUnsupported (s : Session) (n : Text) : SessionStep → Prop where
  | verify {method : Option Text} {m : Text} {c : RequestContext} {t : TargetService}
      (context : s.contexts.lookup n = some c) (target : s.targets.lookup m = some (some t))
      (unsupported : s.chain.verifier.registry.supports method = false) :
      VerifiesUnsupported s n (.verify method n m)
  | resolve {m : Text} {p : Option Principal} {c : RequestContext} {t : TargetService}
      {r : Resolver} {method : Text} (context : s.contexts.lookup n = some c)
      (target : s.targets.lookup m = some (some t))
      (proposed : s.chain.Proposes (p.map Authentication.mk) t c r method)
      (unsupported : method ∉ s.chain.verifier.registry.names) :
      VerifiesUnsupported s n (.resolve n m p)

variable {s : Session} {n : Text} {c : RequestContext} {st : SessionStep}

theorem VerifiesUnsupported.context?_eq (h : s.VerifiesUnsupported n st) :
    st.context? = some n := by
  cases h <;> rfl

/-! ## One verification -/

section Verify

variable {m : Text} {method : Option Text} {t : TargetService}

theorem verify_contexts_lookup (s : Session) (method : Option Text) (n : Text)
    (c : RequestContext) (t : TargetService) :
    (s.verify method n c t).1.contexts.lookup n =
      some (s.chain.verifier.verify method t c).context :=
  lookup_putNamed_self n _ _

theorem verify_of_supported (h : s.chain.verifier.registry.supports method = true) :
    (s.verify method n c t).1.contexts.lookup n = some c ∧
      (s.verify method n c t).2.answer = .ok (.flag true) := by
  have haccepts : s.chain.verifier.accepts method = true := by
    unfold Verifier.accepts
    split
    · exact h
    · rfl
  have hv := Verifier.verify_of_accepts haccepts t c
  exact ⟨by rw [verify_contexts_lookup, hv], by simp [verify, hv]⟩

theorem verify_of_refused_unmarked (h : s.chain.verifier.Refuses method)
    (hc : c.marker = false) :
    (s.verify method n c t).1.contexts.lookup n = some c.marked ∧
      (s.verify method n c t).2.answer = .error (.rejected ⟨method, some t.id⟩) := by
  have hv := Verifier.verify_of_unmarked h t hc
  exact ⟨by rw [verify_contexts_lookup, hv], by simp [verify, hv]⟩

theorem verify_of_refused_marked (h : s.chain.verifier.Refuses method) (hc : c.marker = true) :
    (s.verify method n c t).1.contexts.lookup n = some c ∧
      (s.verify method n c t).2.answer = .ok (.flag false) := by
  have hv := Verifier.verify_of_marked h t hc
  exact ⟨by rw [verify_contexts_lookup, hv], by simp [verify, hv]⟩

end Verify

/-! ## One step -/

section Step

variable (real : s.chain.verifier.acceptance = .registered)
  (hc : s.contexts.lookup n = some c)

include real hc

theorem step_of_unmarked (hm : c.marker = false) (h : s.VerifiesUnsupported n st) :
    (s.step st).1.contexts.lookup n = some c.marked ∧
      ReportsUnsupported (s.step st).2.answer := by
  cases h with
  | verify context target unsupported =>
    obtain ⟨hcontext, hanswer⟩ := verify_of_refused_unmarked ⟨real, unsupported⟩ hm
    rw [step_verify hc target]
    exact ⟨hcontext, hanswer ▸ .verify _⟩
  | resolve context target proposed unsupported =>
    cases hc.symm.trans context
    have hends := Chain.ending_of_ends (.rejected proposed real unsupported hm)
    rw [step_resolve hc target]
    refine ⟨?_, ?_⟩
    · rw [resolve_contexts_lookup, if_pos rfl]
      exact congrArg (fun e => some e.context) hends
    · rw [resolve_answer_error_iff.mpr (congrArg Ending.answer hends)]
      exact .resolve _

theorem step_of_marked (hm : c.marker = true) (h : s.VerifiesUnsupported n st) :
    (s.step st).1.contexts.lookup n = some c ∧
      ((∃ method m, st = .verify method n m ∧ (s.step st).2.answer = .ok (.flag false)) ∨
        ∃ m p, st = .resolve n m p ∧ (s.step st).2.answer = .ok (.requirement none)) := by
  cases h with
  | verify context target unsupported =>
    obtain ⟨hcontext, hanswer⟩ := verify_of_refused_marked ⟨real, unsupported⟩ hm
    rw [step_verify hc target]
    exact ⟨hcontext, Or.inl ⟨_, _, rfl, hanswer⟩⟩
  | resolve context target proposed unsupported =>
    cases hc.symm.trans context
    have hends := Chain.ending_of_ends (.suppressed proposed real unsupported hm)
    rw [step_resolve hc target]
    refine ⟨?_, Or.inr ⟨_, _, rfl, ?_⟩⟩
    · rw [resolve_contexts_lookup, if_pos rfl]
      exact congrArg (fun e => some e.context) hends
    · exact resolve_answer_ok_iff.mpr (congrArg Ending.answer hends)

end Step

theorem resolve_of_supported {m : Text} {p : Option Principal} {t : Option TargetService}
    (hc : s.contexts.lookup n = some c) (ht : s.targets.lookup m = some t)
    (h : ¬ s.VerifiesUnsupported n (.resolve n m p)) :
    (s.resolve n m (p.map Authentication.mk) c t).1.contexts.lookup n = some c ∧
      ¬ ReportsUnsupported (s.resolve n m (p.map Authentication.mk) c t).2.answer := by
  have hends := s.chain.ends_resolve (p.map Authentication.mk) t c
  have hnot : ∀ x, (s.chain.resolve (p.map Authentication.mk) t c).answer ≠
      .error (.rejected x) := by
    intro x hx
    obtain ⟨-, -, -, t, r, method, rfl, proposed, unsupported, -⟩ := hends.of_rejected hx
    exact h (.resolve hc ht proposed unsupported)
  refine ⟨?_, ?_⟩
  · rw [resolve_contexts_lookup, if_pos rfl]
    exact congrArg some (hends.context_eq hnot)
  · unfold resolve
    dsimp only
    cases hx : (s.chain.resolve (p.map Authentication.mk) t c).answer with
    | ok q => exact not_reportsUnsupported_ok _
    | error f =>
      rintro ⟨⟩
      exact hnot _ hx

/-- A step that verifies no unsupported method for a request, and does not set its marker
either, leaves the marker as it is and reports nothing for it. -/
theorem step_of_supported (hc : s.contexts.lookup n = some c) (hkept : ∀ c', st ≠ .request n c')
    (hset : st ≠ .setMarker n) (h : ¬ s.VerifiesUnsupported n st) :
    (∃ c', (s.step st).1.contexts.lookup n = some c' ∧ c'.marker = c.marker) ∧
      (st.context? = some n → ¬ ReportsUnsupported (s.step st).2.answer) := by
  by_cases hn : st.context? = some n
  · cases st with
    | request _ c' =>
      cases hn
      exact absurd rfl (hkept c')
    | setMarker _ =>
      cases hn
      exact absurd rfl hset
    | resolve _ m p =>
      cases hn
      rcases s.step_resolve_cases n m p with ⟨name, hstep⟩ | ⟨c', t, hc', ht, hstep⟩
      · rw [hstep]
        exact ⟨⟨c, hc, rfl⟩, fun _ => nofun⟩
      · cases hc.symm.trans hc'
        obtain ⟨hcontext, hreport⟩ := resolve_of_supported hc ht h
        rw [hstep]
        exact ⟨⟨c, hcontext, rfl⟩, fun _ => hreport⟩
    | verify method _ m =>
      cases hn
      rcases s.step_verify_cases method n m with ⟨hsame, hanswer⟩ | ⟨c', t, hc', ht, hstep⟩
      · rw [hsame]
        refine ⟨⟨c, hc, rfl⟩, fun _ => ?_⟩
        rcases hanswer with ⟨name, hanswer⟩ | hanswer <;> rw [hanswer] <;> exact nofun
      · cases hc.symm.trans hc'
        have hsupported : s.chain.verifier.registry.supports method = true := by
          by_contra hne
          exact h (.verify hc ht (Bool.not_eq_true _ ▸ hne))
        obtain ⟨hcontext, hanswer⟩ := verify_of_supported (c := c) (t := t) hsupported
        rw [hstep]
        exact ⟨⟨c, hcontext, rfl⟩, fun _ => hanswer ▸ not_reportsUnsupported_ok _⟩
    | extract _ m protocols =>
      cases hn
      rw [step, withContext_of_lookup hc]
      exact ⟨⟨c, hc, rfl⟩, fun _ => not_reportsUnsupported_ok _⟩
    | getParameter _ name | getTicket _ | hasMarker _ =>
      cases hn
      rw [step, withContext_of_lookup hc]
      exact ⟨⟨c, hc, rfl⟩, fun _ => not_reportsUnsupported_ok _⟩
    | setParameter _ name value | setFlow _ name value =>
      cases hn
      rw [step, withContext_of_lookup hc]
      exact ⟨⟨_, lookup_putNamed_self n _ _, rfl⟩, fun _ => not_reportsUnsupported_ok _⟩
    | target _ _ | attach _ _ | showTarget _ | chain | addAuthentication _ _
      | getAuthentication _ | findService _ => cases hn
  · exact ⟨⟨c, (step_contexts_of_ne hn).trans hc, rfl⟩, fun hn' => absurd hn' hn⟩

theorem step_setMarker (hc : s.contexts.lookup n = some c) :
    (∃ c', (s.step (.setMarker n)).1.contexts.lookup n = some c' ∧ c'.marker = true) ∧
      ¬ ReportsUnsupported (s.step (.setMarker n)).2.answer := by
  rw [step, withContext_of_lookup hc]
  refine ⟨⟨c.mark.2, lookup_putNamed_self n _ _, ?_⟩, not_reportsUnsupported_ok _⟩
  unfold RequestContext.mark
  split
  · assumption
  · rfl

theorem step_marker_iff (real : s.chain.verifier.acceptance = .registered)
    (hc : s.contexts.lookup n = some c) (hkept : ∀ c', st ≠ .request n c') :
    ∃ c', (s.step st).1.contexts.lookup n = some c' ∧ (c'.marker = true ↔
      c.marker = true ∨ s.VerifiesUnsupported n st ∨ st = .setMarker n) := by
  by_cases h : s.VerifiesUnsupported n st
  · cases hm : c.marker with
    | false => exact ⟨c.marked, (step_of_unmarked real hc hm h).1, by simp [h]⟩
    | true => exact ⟨c, (step_of_marked real hc hm h).1, by simp [hm]⟩
  · by_cases hset : st = .setMarker n
    · subst hset
      obtain ⟨⟨c', hc', hm⟩, -⟩ := step_setMarker hc
      exact ⟨c', hc', by simp [hm]⟩
    · obtain ⟨⟨c', hc', hm⟩, -⟩ := step_of_supported hc hkept hset h
      exact ⟨c', hc', by simp [hm, h, hset]⟩

theorem step_reports_iff (real : s.chain.verifier.acceptance = .registered)
    (hc : s.contexts.lookup n = some c) (hkept : ∀ c', st ≠ .request n c')
    (hn : st.context? = some n) :
    ReportsUnsupported (s.step st).2.answer ↔
      c.marker = false ∧ s.VerifiesUnsupported n st := by
  constructor
  · intro hreport
    by_cases h : s.VerifiesUnsupported n st
    · refine ⟨?_, h⟩
      by_contra hm
      rw [Bool.not_eq_false] at hm
      obtain ⟨-, ⟨_, _, -, hanswer⟩ | ⟨_, _, -, hanswer⟩⟩ := step_of_marked real hc hm h
      · exact not_reportsUnsupported_ok _ (hanswer ▸ hreport)
      · exact not_reportsUnsupported_ok _ (hanswer ▸ hreport)
    · by_cases hset : st = .setMarker n
      · subst hset
        exact absurd hreport (step_setMarker hc).2
      · exact absurd hreport ((step_of_supported hc hkept hset h).2 hn)
  · rintro ⟨hm, h⟩
    exact (step_of_unmarked real hc hm h).2

/-! ## Positions of a run -/

/-- The step at the position verifies an unsupported method for the request. -/
def UnsupportedAt (s : Session) (steps : List SessionStep) (n : Text) (i : Nat) : Prop :=
  ∃ st, steps[i]? = some st ∧ (s.before steps i).VerifiesUnsupported n st

/-- The step at the position, which is one for the request, is answered with a rejection. -/
def ReportsAt (s : Session) (steps : List SessionStep) (n : Text) (i : Nat) : Prop :=
  ∃ st answer, steps[i]? = some st ∧ st.context? = some n ∧
    s.answerAt steps i = some answer ∧ ReportsUnsupported answer

/-- The request is marked when the run comes to the position. -/
def MarkedAt (s : Session) (steps : List SessionStep) (n : Text) (i : Nat) : Prop :=
  ∃ c, (s.before steps i).contexts.lookup n = some c ∧ c.marker = true

/-- How a run treats the unsupported methods of one request. -/
structure ReportsOnce (s : Session) (steps : List SessionStep) (n : Text) : Prop where
  /-- No two steps report. -/
  at_most_one : ∀ i j, s.ReportsAt steps n i → s.ReportsAt steps n j → i = j
  /-- Only steps that verify an unsupported method do. -/
  unsupported_of_reports : ∀ i, s.ReportsAt steps n i → s.UnsupportedAt steps n i
  /-- The first of them does, unless a host set the marker before. -/
  first_reports : ∀ i, s.UnsupportedAt steps n i →
    (∀ j < i, steps[j]? ≠ some (.setMarker n)) →
      ∃ k ≤ i, s.ReportsAt steps n k ∧ ∀ j < k, ¬ s.UnsupportedAt steps n j
  /-- The marker tells that an unsupported method was verified, or that a host set it. -/
  marked_iff : ∀ i, s.MarkedAt steps n i ↔
    ∃ j < i, s.UnsupportedAt steps n j ∨ steps[j]? = some (.setMarker n)
  /-- Once set, it stays set. -/
  stays_marked : ∀ i j, i ≤ j → s.MarkedAt steps n i → s.MarkedAt steps n j
  /-- From then on, a verification of an unsupported method says no. -/
  verify_suppressed : ∀ i method m, steps[i]? = some (.verify method n m) →
    s.MarkedAt steps n i → s.UnsupportedAt steps n i →
      s.answerAt steps i = some (.ok (.flag false))
  /-- A resolution that comes to one requires nothing. -/
  resolve_suppressed : ∀ i m p, steps[i]? = some (.resolve n m p) →
    s.MarkedAt steps n i → s.UnsupportedAt steps n i →
      s.answerAt steps i = some (.ok (.requirement none))
  /-- A verification of a supported method says yes and leaves the request as it is. -/
  verify_supported : ∀ i method m t, steps[i]? = some (.verify method n m) →
    (s.before steps i).targets.lookup m = some (some t) →
    (s.before steps i).chain.verifier.registry.supports method = true →
      s.answerAt steps i = some (.ok (.flag true)) ∧
        (s.before steps (i + 1)).contexts.lookup n = (s.before steps i).contexts.lookup n
  /-- A resolution that does not come to an unsupported method reports nothing and leaves the
  request as it is. -/
  resolve_supported : ∀ i m p, steps[i]? = some (.resolve n m p) →
    ¬ s.UnsupportedAt steps n i → ¬ s.ReportsAt steps n i ∧
      (s.before steps (i + 1)).contexts.lookup n = (s.before steps i).contexts.lookup n

theorem unsupportedAt_iff {steps : List SessionStep} {i : Nat} (h : steps[i]? = some st) :
    s.UnsupportedAt steps n i ↔ (s.before steps i).VerifiesUnsupported n st := by
  simp [UnsupportedAt, h]

/-- The run starts with a request of the name that is not marked and does not replace it, and the
verifier goes by its registry. -/
structure StartsFresh (s : Session) (steps : List SessionStep) (n : Text) : Prop where
  real : ∀ store, (s.assemble store).verifier.acceptance = .registered
  unmarked : ∃ c, s.contexts.lookup n = some c ∧ c.marker = false
  kept : ∀ c, .request n c ∉ steps

namespace StartsFresh

variable {steps : List SessionStep} {i j : Nat}

theorem registered (h : s.StartsFresh steps n) (i : Nat) :
    (s.before steps i).chain.verifier.acceptance = .registered := by
  unfold chain
  rw [before_assemble]
  exact h.real _

theorem ne_request (h : s.StartsFresh steps n) (hst : steps[i]? = some st)
    (c : RequestContext) : st ≠ .request n c := by
  rintro rfl
  exact h.kept c (List.mem_of_getElem? hst)

/-- The request is there all along, and its marker tells whether an unsupported method was
verified for it or a host set the marker. -/
theorem marker_iff (h : s.StartsFresh steps n) (i : Nat) :
    ∃ c, (s.before steps i).contexts.lookup n = some c ∧ (c.marker = true ↔
      ∃ j < i, s.UnsupportedAt steps n j ∨ steps[j]? = some (.setMarker n)) := by
  induction i with
  | zero =>
    obtain ⟨c, hc, hm⟩ := h.unmarked
    exact ⟨c, hc, by simp [hm]⟩
  | succ i ih =>
    obtain ⟨c, hc, hm⟩ := ih
    cases hst : steps[i]? with
    | none =>
      refine ⟨c, by rw [before_succ_of_none hst, hc], ?_⟩
      rw [hm, Nat.exists_lt_succ_right]
      simp [UnsupportedAt, hst]
    | some st =>
      obtain ⟨c', hc', hm'⟩ := step_marker_iff (h.registered i) hc (h.ne_request hst)
      refine ⟨c', by rw [before_succ hst, hc'], ?_⟩
      rw [hm', hm, Nat.exists_lt_succ_right, unsupportedAt_iff hst, hst, Option.some.injEq]

theorem markedAt_iff (h : s.StartsFresh steps n) : s.MarkedAt steps n i ↔
    ∃ j < i, s.UnsupportedAt steps n j ∨ steps[j]? = some (.setMarker n) := by
  obtain ⟨c, hc, hm⟩ := h.marker_iff i
  rw [← hm, MarkedAt, hc]
  simp

theorem reportsAt_iff (h : s.StartsFresh steps n) :
    s.ReportsAt steps n i ↔ s.UnsupportedAt steps n i ∧ ¬ s.MarkedAt steps n i := by
  obtain ⟨c, hc, -⟩ := h.marker_iff i
  have hmarked : s.MarkedAt steps n i ↔ c.marker = true := by simp [MarkedAt, hc]
  rw [hmarked, Bool.not_eq_true]
  constructor
  · rintro ⟨st, answer, hst, hn, hanswer, hreport⟩
    rw [answerAt_of_getElem? hst] at hanswer
    cases hanswer
    obtain ⟨hm, hverify⟩ :=
      (step_reports_iff (h.registered i) hc (h.ne_request hst) hn).mp hreport
    exact ⟨⟨st, hst, hverify⟩, hm⟩
  · rintro ⟨⟨st, hst, hverify⟩, hm⟩
    have hn := hverify.context?_eq
    have hreport :=
      (step_reports_iff (h.registered i) hc (h.ne_request hst) hn).mpr ⟨hm, hverify⟩
    exact ⟨st, _, hst, hn, answerAt_of_getElem? hst, hreport⟩

theorem not_reportsAt_of_lt (h : s.StartsFresh steps n) (hi : s.ReportsAt steps n i)
    (hlt : i < j) : ¬ s.ReportsAt steps n j := by
  intro hj
  have hmarked : s.MarkedAt steps n j :=
    h.markedAt_iff.mpr ⟨i, hlt, Or.inl (h.reportsAt_iff.mp hi).1⟩
  exact (h.reportsAt_iff.mp hj).2 hmarked

theorem first_reports (h : s.StartsFresh steps n) (hi : s.UnsupportedAt steps n i)
    (hset : ∀ j < i, steps[j]? ≠ some (.setMarker n)) :
    ∃ k ≤ i, s.ReportsAt steps n k ∧ ∀ j < k, ¬ s.UnsupportedAt steps n j := by
  classical
  have hex : ∃ k, s.UnsupportedAt steps n k := ⟨i, hi⟩
  have hle : Nat.find hex ≤ i := Nat.find_min' hex hi
  have hfirst : ∀ j < Nat.find hex, ¬ s.UnsupportedAt steps n j := fun j => Nat.find_min hex
  refine ⟨Nat.find hex, hle, ?_, hfirst⟩
  refine h.reportsAt_iff.mpr ⟨Nat.find_spec hex, ?_⟩
  rw [h.markedAt_iff]
  rintro ⟨j, hj, hverify | hmark⟩
  · exact hfirst j hj hverify
  · exact hset j (hj.trans_le hle) hmark

theorem suppressed (h : s.StartsFresh steps n) (hst : steps[i]? = some st)
    (hm : s.MarkedAt steps n i) (hverify : s.UnsupportedAt steps n i) :
    (∃ method m, st = .verify method n m ∧ s.answerAt steps i = some (.ok (.flag false))) ∨
      ∃ m p, st = .resolve n m p ∧ s.answerAt steps i = some (.ok (.requirement none)) := by
  obtain ⟨c, hc, hm⟩ := hm
  rw [answerAt_of_getElem? hst, Option.some.injEq, Option.some.injEq]
  exact (step_of_marked (h.registered i) hc hm ((unsupportedAt_iff hst).mp hverify)).2

theorem reportsOnce (h : s.StartsFresh steps n) : s.ReportsOnce steps n where
  at_most_one i j hi hj := by
    rcases lt_trichotomy i j with hlt | heq | hlt
    · exact absurd hj (h.not_reportsAt_of_lt hi hlt)
    · exact heq
    · exact absurd hi (h.not_reportsAt_of_lt hj hlt)
  unsupported_of_reports i hi := (h.reportsAt_iff.mp hi).1
  first_reports i := h.first_reports
  marked_iff i := h.markedAt_iff
  stays_marked i j hij hi := by
    obtain ⟨k, hk, hcause⟩ := h.markedAt_iff.mp hi
    exact h.markedAt_iff.mpr ⟨k, hk.trans_le hij, hcause⟩
  verify_suppressed i method m hst hm hverify := by
    rcases h.suppressed hst hm hverify with ⟨_, _, -, hanswer⟩ | ⟨_, _, hst', -⟩
    · exact hanswer
    · cases hst'
  resolve_suppressed i m p hst hm hverify := by
    rcases h.suppressed hst hm hverify with ⟨_, _, hst', -⟩ | ⟨_, _, -, hanswer⟩
    · cases hst'
    · exact hanswer
  verify_supported i method m t hst ht hsupported := by
    obtain ⟨c, hc, -⟩ := h.marker_iff i
    obtain ⟨hcontext, hanswer⟩ := verify_of_supported (n := n) (c := c) (t := t) hsupported
    rw [answerAt_of_getElem? hst, before_succ hst, step_verify hc ht, hcontext, hanswer, hc]
    exact ⟨rfl, rfl⟩
  resolve_supported i m p hst hsupported := by
    refine ⟨fun hi => hsupported (h.reportsAt_iff.mp hi).1, ?_⟩
    rw [before_succ hst]
    rcases (s.before steps i).step_resolve_cases n m p with
      ⟨name, hstep⟩ | ⟨c, t, hc, ht, hstep⟩
    · rw [hstep, refuse]
    · rw [hstep, hc]
      exact (resolve_of_supported hc ht (mt (unsupportedAt_iff hst).mpr hsupported)).1

end StartsFresh

/-- **An unsupported method is reported once for a request.** Whatever steps follow the creation
of a request that is not marked, for that and for other requests, with a verifier that goes by its
registry: until the request is replaced, unsupported methods are reported once for it. -/
theorem unsupported_reported_once (s : Session) (n : Text) (c : RequestContext)
    (steps : List SessionStep)
    (real : ∀ store, (s.assemble store).verifier.acceptance = .registered)
    (fresh : c.marker = false) (kept : ∀ c', .request n c' ∉ steps) :
    (s.step (.request n c)).1.ReportsOnce steps n := by
  have hfresh : (s.step (.request n c)).1.StartsFresh steps n :=
    ⟨real, ⟨c, lookup_putNamed_self n c s.contexts, fresh⟩, kept⟩
  exact hfresh.reportsOnce

/-- The unknown method of the only resolver is reported, and another one that is verified
afterwards is let pass. -/
theorem unsupported_reported_once_bogus :
    let chain : Chain := ⟨[.fixed .requestParameter (some "bogus")], { registry := .empty }⟩
    let s : Session :=
      { assemble := fun _ => chain, services := .ofList [], store := .absent, sink := none }
    let steps : List SessionStep :=
      [.target "t" { id := "app" }, .resolve "r" "t" none, .verify (some "other") "r" "t"]
    let s' := (s.step (.request "r" ⟨[], [], "r1", false⟩)).1
    s'.ReportsOnce steps "r" ∧ s'.ReportsAt steps "r" 1 ∧
      s'.answerAt steps 2 = some (.ok (.flag false)) := by
  intro chain s steps s'
  have hsettles : chain.Proposes none { id := "app" } ⟨[], [], "r1", false⟩
      (.fixed .requestParameter (some "bogus")) "bogus" :=
    ⟨⟨[], [], rfl, by simp, (Resolver.not_passes_iff_of_proposes rfl).mpr (by decide)⟩, rfl⟩
  have hresolve : s'.UnsupportedAt steps "r" 1 := ⟨_, rfl, .resolve rfl rfl hsettles (by decide)⟩
  have hverify : s'.UnsupportedAt steps "r" 2 := ⟨_, rfl, .verify rfl rfl rfl⟩
  have honce : s'.ReportsOnce steps "r" :=
    unsupported_reported_once s "r" _ steps (fun _ => rfl) rfl (by simp [steps])
  refine ⟨honce, ?_, ?_⟩
  · exact ⟨_, _, rfl, rfl, rfl, .resolve _⟩
  · exact honce.verify_suppressed 2 _ _ rfl
      ((honce.marked_iff 2).mpr ⟨1, by decide, Or.inl hresolve⟩) hverify

end Session

end StepUp
