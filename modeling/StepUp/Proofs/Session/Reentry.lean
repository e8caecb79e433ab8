import StepUp.Proofs.Session.Independence
import StepUp.Proofs.Resolver

/-!
# Asking again

A resolution writes at most the marker of the request and the requirement of the target, and both
have a say in the next one, which finds the request marked or the target with a requirement. The
resolvers of a configuration look at neither (`Config.resolvers_heedless`), so that the next
resolution comes to the same candidate. What the first one leaves behind is then a fixed point
(`Chain.Ends.next`): those that follow write nothing and answer the same, except that a rejection
is not repeated (`reentry_idempotent`).
-/

namespace StepUp

/-! ## What the resolvers look at -/

/-- The resolver looks neither at the requirement of the target nor at the marker of the
request. -/
def Resolver.Heedless (r : Resolver) : Prop :=
  ∀ a t c q b, r.propose a { t with requirement := q } { c with marker := b } = r.propose a t c

/-- The resolvers of a configuration look at the id of the target, and at parameters and flow scope
of the request. -/
theorem Config.resolvers_heedless (config : Config) (registry : Registry)
    (services : ServiceDirectory) (store : Option AuthenticationStore) :
    ∀ r ∈ config.resolvers registry services store, r.Heedless := by
  intro r hr a t c q b
  rcases mem_resolvers_iff.mp hr with rfl | rfl | ⟨_, -, rfl⟩ | ⟨_, -, -, rfl⟩
  · exact rfl
  · exact rfl
  · exact rfl
  · exact rfl

namespace Chain

variable {chain : Chain} {a : Option Authentication} {t : TargetService} {c : RequestContext}
  {target : Option TargetService} {r : Resolver} {m : Text} {e : Ending}

/-- All resolvers of the chain are heedless. -/
def Heedless (chain : Chain) : Prop := ∀ r ∈ chain.resolvers, r.Heedless

theorem heedless_of_ofConfig? {config : Config} {services : ServiceDirectory}
    {store : Option AuthenticationStore} (h : ofConfig? config services store = .ok chain) :
    chain.Heedless := by
  obtain ⟨registry, rfl⟩ := ofConfig?_eq_ok h
  exact config.resolvers_heedless registry services store

/-! ## The next search -/

namespace Heedless

variable (h : chain.Heedless) (q : Option Requirement) (b : Bool)

include h

theorem passes_iff (hr : r ∈ chain.resolvers) :
    r.Passes a { t with requirement := q } { c with marker := b } ↔ r.Passes a t c := by
  unfold Resolver.Passes
  rw [h r hr]

theorem settles (hsettles : chain.Settles a t c r) :
    chain.Settles a { t with requirement := q } { c with marker := b } r := by
  have hmem := hsettles.mem
  obtain ⟨before, after, hsplit, hbefore, hr⟩ := hsettles
  refine ⟨before, after, hsplit, fun p hp => ?_, mt (h.passes_iff q b hmem).mp hr⟩
  have hp' : p ∈ chain.resolvers := hsplit ▸ List.mem_append_left _ hp
  exact (h.passes_iff q b hp').mpr (hbefore p hp)

theorem proposes (hproposes : chain.Proposes a t c r m) :
    chain.Proposes a { t with requirement := q } { c with marker := b } r m :=
  ⟨h.settles q b hproposes.1, by rw [h r hproposes.1.mem, hproposes.2]⟩

end Heedless

end Chain

/-! ## The next resolution -/

/-- What is answered the next time: the same, but a rejection is not repeated. -/
def Ending.nextAnswer (e : Ending) : Except ResolutionFault (Option Requirement) :=
  match e.answer with
  | .error (.rejected _) => .ok none
  | answer => answer

namespace Chain

variable {chain : Chain} {a : Option Authentication} {c : RequestContext}
  {target : Option TargetService} {e : Ending}

/-- A resolution that starts from what another one left behind changes nothing any more. -/
theorem Ends.next (heedless : chain.Heedless) (h : chain.Ends a c target e) :
    ∃ e', chain.Ends a e.context e.target e' ∧ e'.answer = e.nextAnswer ∧
      e'.context = e.context ∧ e'.target = e.target := by
  cases h with
  | noTarget => exact ⟨_, .noTarget, rfl, rfl, rfl⟩
  | noCandidate pass => exact ⟨_, .noCandidate pass, rfl, rfl, rfl⟩
  | failed raised => exact ⟨_, .failed raised, rfl, rfl, rfl⟩
  | @rejected t r m proposed real unsupported unmarked =>
    -- the request is marked now
    have hagain := heedless.proposes t.requirement true proposed
    exact ⟨_, .suppressed hagain real unsupported rfl, rfl, rfl, rfl⟩
  | suppressed proposed real unsupported marked =>
    exact ⟨_, .suppressed proposed real unsupported marked, rfl, rfl, rfl⟩
  | @required t r method proposed member bare =>
    -- the target has the requirement now
    have hagain := heedless.proposes (some ⟨method, r.source⟩) c.marker proposed
    exact ⟨_, .again hagain member rfl, rfl, rfl, rfl⟩
  | again proposed member same => exact ⟨_, .again proposed member same, rfl, rfl, rfl⟩
  | conflicting proposed member carried other =>
    exact ⟨_, .conflicting proposed member carried other, rfl, rfl, rfl⟩
  | unregistered proposed lax unsupported =>
    exact ⟨_, .unregistered proposed lax unsupported, rfl, rfl, rfl⟩

/-- The next resolution, without the ways in which one can end. -/
theorem Heedless.resolve_next (heedless : chain.Heedless) (a : Option Authentication)
    (target : Option TargetService) (c : RequestContext) :
    let first := (chain.resolve a target c).ending
    let next := (chain.resolve a first.target first.context).ending
    next.answer = first.nextAnswer ∧ next.context = first.context ∧ next.target = first.target := by
  intro first next
  obtain ⟨e, hends, hsame⟩ := (chain.ends_resolve a target c).next heedless
  rw [show next = e from ending_of_ends hends]
  exact hsame

end Chain

/-! ## Re-entry in a session -/

/-- All names are in one group. -/
def Grouping.whole : Grouping := ⟨fun _ => true, fun _ => true⟩

theorem Grouping.whole_within (st : SessionStep) : whole.Within true st :=
  ⟨fun _ _ => rfl, fun _ _ => rfl⟩

namespace Session

variable {s s' : Session} {st : SessionStep} {config : Config} {services : ServiceDirectory}

/-- The two sessions are the same, apart from the sink. -/
def Agrees (s s' : Session) : Prop := AgreesOn .whole true s s'

/-- A step that leaves everything as it is does so each time, and always answers the same. -/
theorem run_replicate_of_agrees (hfix : Agrees s (s.step st).1) (h : Agrees s s') (k : Nat) :
    ∀ x ∈ s'.run (List.replicate k st),
      Agrees s x.1 ∧ x.2.answer = (s.step st).2.answer := by
  induction k generalizing s' with
  | zero => exact nofun
  | succ k ih =>
    obtain ⟨hstep, hanswer⟩ := AgreesOn.step h (Grouping.whole_within st)
    have hnext : Agrees s (s'.step st).1 := AgreesOn.trans hfix hstep
    rw [List.replicate_succ, run]
    exact List.forall_mem_cons.mpr ⟨⟨hnext, hanswer⟩, ih hnext⟩

/-- The next answer to the same question: the same, but a rejection is not repeated. -/
structure AnswersAgain (first next : Except SessionFault SessionReply) : Prop where
  same : (∀ r, first ≠ .error (.resolution (.rejected r))) → next = first
  suppressed : ∀ r, first = .error (.resolution (.rejected r)) → next = .ok (.requirement none)

theorem answersAgain_of_next {k next : Call}
    (h : next.resolution.answer = k.resolution.ending.nextAnswer) :
    AnswersAgain k.answer next.answer := by
  have hending : k.resolution.ending.answer = k.resolution.answer := rfl
  unfold Call.answer
  rw [h, Ending.nextAnswer, hending]
  cases k.resolution.answer with
  | ok q => exact ⟨fun _ => rfl, nofun⟩
  | error f =>
    cases f with
    | rejected r => exact ⟨fun hn => absurd rfl (hn r), fun _ _ => rfl⟩
    | failed reason => exact ⟨fun _ => rfl, nofun⟩

/-- What a resolution leaves behind is not changed by the next one. -/
theorem resolve_next (heedless : s.chain.Heedless) (n m : Text) (a : Option Authentication)
    (c : RequestContext) (t : Option TargetService) :
    let resolution := s.chain.resolve a t c
    let first := s.resolve n m a c t
    let next := first.1.resolve n m a resolution.context resolution.target
    Agrees first.1 next.1 ∧ AnswersAgain first.2.answer next.2.answer := by
  intro resolution first next
  obtain ⟨hanswer, hcontext, htarget⟩ := heedless.resolve_next a t c
  have hchain : first.1.chain = s.chain := rfl
  refine ⟨⟨rfl, rfl, rfl, fun k _ => ?_, fun k _ => ?_⟩, ?_⟩
  · rw [resolve_contexts_lookup, hchain, resolve_contexts_lookup]
    split
    · exact congrArg some hcontext
    · rfl
  · rw [resolve_targets_lookup, hchain, resolve_targets_lookup]
    split
    · exact congrArg some htarget
    · rfl
  · have hagain : AnswersAgain (Call.answer ⟨s.chain, a, t, c⟩)
        (Call.answer ⟨s.chain, a, resolution.target, resolution.context⟩) :=
      answersAgain_of_next hanswer
    exact hagain

/-- The same of two steps. -/
theorem step_resolve_next (heedless : s.chain.Heedless) (n m : Text) (p : Option Principal) :
    let first := s.step (.resolve n m p)
    let next := first.1.step (.resolve n m p)
    Agrees first.1 next.1 ∧ AnswersAgain first.2.answer next.2.answer := by
  rcases s.step_resolve_cases n m p with ⟨name, hfirst⟩ | ⟨c, t, hc, ht, hfirst⟩
  · -- a name that stands for nothing still does
    rw [hfirst, refuse]
    dsimp only
    rw [hfirst]
    refine ⟨.refl _ _ _, fun _ => rfl, fun r hr => ?_⟩
    cases hr
  · have hc' : (s.resolve n m (p.map Authentication.mk) c t).1.contexts.lookup n = _ :=
      (resolve_contexts_lookup n _ c t).trans (if_pos rfl)
    have ht' : (s.resolve n m (p.map Authentication.mk) c t).1.targets.lookup m = _ :=
      (resolve_targets_lookup m _ c t).trans (if_pos rfl)
    rw [hfirst]
    dsimp only
    rw [step_resolve hc' ht']
    exact resolve_next heedless n m _ c t

/-- **Resolving again.** Take a session over the chain of a configuration, with any directory of
services, any store and any sink, and resolve for one context and one target with one user again
and again. After the first time no context and no target changes any more. If the first time gave
a requirement, none, or failed, then so does each other time, with the same text; if it was
rejected, each other time gives no requirement. -/
theorem reentry_idempotent (s : Session)
    (built : Chain.ofConfig? config services s.store.store? = .ok s.chain) (n m : Text)
    (p : Option Principal) (k : Nat) :
    let first := s.step (.resolve n m p)
    ∀ x ∈ first.1.run (List.replicate k (.resolve n m p)),
      (∀ name, x.1.contexts.lookup name = first.1.contexts.lookup name) ∧
      (∀ name, x.1.targets.lookup name = first.1.targets.lookup name) ∧
      AnswersAgain first.2.answer x.2.answer := by
  intro first x hx
  obtain ⟨hfix, hanswer⟩ := step_resolve_next (Chain.heedless_of_ofConfig? built) n m p
  obtain ⟨hagrees, hx⟩ := run_replicate_of_agrees hfix (.refl _ _ _) k x hx
  refine ⟨fun name => hagrees.contexts name rfl, fun name => hagrees.targets name rfl, ?_⟩
  rw [hx]
  exact hanswer

/-- A client asks for an unknown method, and for one that the target, which demands another one
already, cannot be given. The first is rejected once, the second refused each time, in the same
words; it does not matter that nothing can be written to the sink. -/
theorem reentry_idempotent_unknown :
    let config : Config := { methods := [⟨"sms", 1⟩, ⟨"webauthn", 2⟩] }
    let registry : Registry := ⟨config.methods, by decide⟩
    let asks (method : Text) : RequestContext :=
      ⟨[("authn_method", .str method)], [], "r1", false⟩
    let demanded : Requirement := ⟨⟨"webauthn", 2⟩, .mfaRole⟩
    let bound : TargetService := { id := "vpn", requirement := some demanded }
    let s : Session :=
      { assemble := fun store => ⟨config.resolvers registry (.ofList []) store,
          { registry := registry }⟩
        services := .ofList []
        store := .entries []
        sink := some (.broken "disk full")
        contexts := [("a", asks "bogus"), ("b", asks "sms")]
        targets := [("u", some { id := "app" }), ("v", some bound)] }
    let conflict := Chain.conflictReason bound demanded ⟨⟨"sms", 1⟩, .requestParameter⟩
    (s.step (.resolve "a" "u" none)).2.answer =
        .error (.resolution (.rejected ⟨some "bogus", some "app"⟩)) ∧
      (∀ x ∈ (s.step (.resolve "a" "u" none)).1.run (List.replicate 3 (.resolve "a" "u" none)),
        x.1.contexts.lookup ("a" : Text) = some (asks "bogus").marked ∧
          x.2.answer = .ok (.requirement none)) ∧
      ∀ x ∈ (s.step (.resolve "b" "v" none)).1.run (List.replicate 3 (.resolve "b" "v" none)),
        x.1.targets.lookup ("v" : Text) = some (some bound) ∧
          x.2.answer = .error (.resolution (.failed conflict)) := by
  intro config registry asks demanded bound s conflict
  have hregistry : Registry.ofList? config.methods = .ok registry := dif_pos (by decide)
  have built : Chain.ofConfig? config (.ofList []) s.store.store? = .ok s.chain := by
    simp only [Chain.ofConfig?, hregistry]
    rfl
  have hrejected : (s.step (.resolve "a" "u" none)).2.answer =
      .error (.resolution (.rejected ⟨some "bogus", some "app"⟩)) := by rfl
  have hrefused : (s.step (.resolve "b" "v" none)).2.answer =
      .error (.resolution (.failed conflict)) := by rfl
  refine ⟨hrejected, fun x hx => ?_, fun x hx => ?_⟩
  · obtain ⟨hcontexts, -, hagain⟩ := reentry_idempotent s built "a" "u" none 3 x hx
    exact ⟨(hcontexts "a").trans rfl, hagain.suppressed _ hrejected⟩
  · obtain ⟨-, htargets, hagain⟩ := reentry_idempotent s built "b" "v" none 3 x hx
    refine ⟨(htargets "v").trans rfl, (hagain.same fun r hr => ?_).trans hrefused⟩
    cases hrefused.symm.trans hr

end Session

end StepUp
