import StepUp.Proofs.Chain.Ending
import StepUp.Session

/-!
# What a step of a session touches

A step writes at most the context and the target that it names:

* `step_contexts_of_ne`, `step_targets_of_ne`: all others are as before;
* `step_assemble`: the chain stays what it is, a function of the store.

Only resolutions and verifications are reported in records or events (`step_reports`).

A resolution or a verification is refused where a name stands for nothing, which changes nothing,
and otherwise goes on with what the names stand for (`step_resolve_cases`, `step_verify_cases`).
-/

namespace StepUp

/-- The context that a step names. -/
def SessionStep.context? : SessionStep → Option Text
  | .request n _ | .extract n _ _ | .resolve n _ _ | .verify _ n _ | .setParameter n _ _
  | .setFlow n _ _ | .getParameter n _ | .getTicket n | .setMarker n | .hasMarker n => some n
  | .target _ _ | .attach _ _ | .showTarget _ | .chain | .addAuthentication _ _
  | .getAuthentication _ | .findService _ => none

/-- The target that a step names. -/
def SessionStep.target? : SessionStep → Option Text
  | .target m _ | .extract _ m _ | .resolve _ m _ | .verify _ _ m | .attach m _
  | .showTarget m => some m
  | .request _ _ | .chain | .addAuthentication _ _ | .getAuthentication _ | .findService _
  | .setParameter _ _ _ | .setFlow _ _ _ | .getParameter _ _ | .getTicket _ | .setMarker _
  | .hasMarker _ => none

namespace Session

variable {s : Session} {n m k : Text} {c : RequestContext} {t : Option TargetService}
  {st : SessionStep}

/-! ## Named entries -/

theorem lookup_cons_eq_ite {α : Type} (k p : Text) (y : α) (rest : List (Text × α)) :
    ((p, y) :: rest).lookup k = if k = p then some y else rest.lookup k := by
  rw [List.lookup_cons]
  by_cases h : k = p
  · simp [h]
  · rw [if_neg h, beq_false_of_ne h]

theorem lookup_putNamed {α : Type} (n k : Text) (x : α) (list : List (Text × α)) :
    (putNamed n x list).lookup k = if k = n then some x else list.lookup k := by
  induction list with
  | nil => rw [putNamed, lookup_cons_eq_ite]
  | cons p rest ih =>
    obtain ⟨p, y⟩ := p
    unfold putNamed
    split
    · next hp =>
      subst hp
      rw [lookup_cons_eq_ite, lookup_cons_eq_ite]
      split <;> rfl
    · next hp =>
      rw [lookup_cons_eq_ite, lookup_cons_eq_ite, ih]
      by_cases hk : k = n
      · subst hk
        simp only [if_neg (Ne.symm hp), if_true]
      · simp only [if_neg hk]

@[simp] theorem lookup_putNamed_self {α : Type} (n : Text) (x : α) (list : List (Text × α)) :
    (putNamed n x list).lookup n = some x := by
  simp [lookup_putNamed]

theorem lookup_putNamed_of_ne {α : Type} (h : k ≠ n) (x : α) (list : List (Text × α)) :
    (putNamed n x list).lookup k = list.lookup k := by
  simp [lookup_putNamed, h]

/-! ## Steps that go on with a named entry -/

theorem withContext_of_lookup (h : s.contexts.lookup n = some c)
    (k : RequestContext → Session × SessionReaction) : s.withContext n k = k c := by
  simp [withContext, h]

theorem withTarget_of_lookup (h : s.targets.lookup m = some t)
    (k : Option TargetService → Session × SessionReaction) : s.withTarget m k = k t := by
  simp [withTarget, h]

theorem withContext_keeps {P : Session → Prop} (hs : P s)
    {k : RequestContext → Session × SessionReaction} (hk : ∀ c, P (k c).1) :
    P (s.withContext n k).1 := by
  unfold withContext
  split
  · exact hk _
  · exact hs

theorem withTarget_keeps {P : Session → Prop} (hs : P s)
    {k : Option TargetService → Session × SessionReaction} (hk : ∀ t, P (k t).1) :
    P (s.withTarget m k).1 := by
  unfold withTarget
  split
  · exact hk _
  · exact hs

/-! ## What a step leaves alone -/

/-- What holds of a session and survives each write that a step can make holds after the step. -/
theorem step_keeps {P : Session → Prop} (hs : P s)
    (hcontext : ∀ s n c, st.context? = some n → P s → P (s.putContext n c))
    (htarget : ∀ s m t, st.target? = some m → P s → P (s.putTarget m t))
    (hattempts : ∀ s i, P s → P { s with attempts := i })
    (hstore : ∀ s ticket a, st = .addAuthentication ticket a → P s →
      P { s with store := s.store.add ticket a }) : P (s.step st).1 := by
  cases st with
  | request n c => exact hcontext s n c rfl hs
  | target m t => exact htarget s m (some t) rfl hs
  | extract n m protocols =>
    exact withContext_keeps hs fun c => htarget s m _ rfl hs
  | resolve n m p =>
    refine withContext_keeps hs fun c => withTarget_keeps hs fun t => ?_
    exact hattempts _ _ (htarget _ m _ rfl (hcontext s n _ rfl hs))
  | verify method n m =>
    refine withTarget_keeps hs fun t => ?_
    cases t with
    | none => exact hs
    | some t => exact withContext_keeps hs fun c => hcontext s n _ rfl hs
  | attach m r =>
    refine withTarget_keeps hs fun t => ?_
    cases t with
    | none => exact hs
    | some t =>
      dsimp only
      split
      · exact htarget s m _ rfl hs
      · exact hs
  | showTarget m => exact withTarget_keeps hs fun _ => hs
  | chain => exact hs
  | addAuthentication ticket a =>
    unfold step
    dsimp only
    split
    · exact hstore s ticket a rfl hs
    · exact hs
  | getAuthentication ticket =>
    unfold step
    dsimp only
    split
    · exact hs
    · split <;> exact hs
  | findService id =>
    unfold step
    dsimp only
    split <;> exact hs
  | setParameter n name value => exact withContext_keeps hs fun c => hcontext s n _ rfl hs
  | setFlow n name value => exact withContext_keeps hs fun c => hcontext s n _ rfl hs
  | getParameter n name => exact withContext_keeps hs fun _ => hs
  | getTicket n => exact withContext_keeps hs fun _ => hs
  | setMarker n => exact withContext_keeps hs fun c => hcontext s n _ rfl hs
  | hasMarker n => exact withContext_keeps hs fun _ => hs

theorem step_contexts_of_ne (h : st.context? ≠ some k) :
    (s.step st).1.contexts.lookup k = s.contexts.lookup k := by
  refine step_keeps (P := fun s' => s'.contexts.lookup k = s.contexts.lookup k) rfl ?_
    (fun _ _ _ _ hs => hs) (fun _ _ hs => hs) (fun _ _ _ _ hs => hs)
  intro s' n c hn hs
  have hk : k ≠ n := by
    rintro rfl
    exact h hn
  exact (lookup_putNamed_of_ne hk c s'.contexts).trans hs

theorem step_targets_of_ne (h : st.target? ≠ some k) :
    (s.step st).1.targets.lookup k = s.targets.lookup k := by
  refine step_keeps (P := fun s' => s'.targets.lookup k = s.targets.lookup k) rfl
    (fun _ _ _ _ hs => hs) ?_ (fun _ _ hs => hs) (fun _ _ _ _ hs => hs)
  intro s' m t hm hs
  have hk : k ≠ m := by
    rintro rfl
    exact h hm
  exact (lookup_putNamed_of_ne hk t s'.targets).trans hs

theorem step_assemble (s : Session) (st : SessionStep) : (s.step st).1.assemble = s.assemble :=
  step_keeps (P := fun s' => s'.assemble = s.assemble) rfl (fun _ _ _ _ hs => hs)
    (fun _ _ _ _ hs => hs) (fun _ _ hs => hs) (fun _ _ _ _ hs => hs)

theorem step_services (s : Session) (st : SessionStep) : (s.step st).1.services = s.services :=
  step_keeps (P := fun s' => s'.services = s.services) rfl (fun _ _ _ _ hs => hs)
    (fun _ _ _ _ hs => hs) (fun _ _ hs => hs) (fun _ _ _ _ hs => hs)

theorem step_sink (s : Session) (st : SessionStep) : (s.step st).1.sink = s.sink :=
  step_keeps (P := fun s' => s'.sink = s.sink) rfl (fun _ _ _ _ hs => hs)
    (fun _ _ _ _ hs => hs) (fun _ _ hs => hs) (fun _ _ _ _ hs => hs)

theorem step_store (h : ∀ ticket a, st ≠ .addAuthentication ticket a) :
    (s.step st).1.store = s.store :=
  step_keeps (P := fun s' => s'.store = s.store) rfl (fun _ _ _ _ hs => hs)
    (fun _ _ _ _ hs => hs) (fun _ _ hs => hs) (fun _ ticket a hst _ => absurd hst (h ticket a))

/-! ## What a step reports -/

theorem withContext_reports {P : SessionReaction → Prop} (hquiet : ∀ answer, P ⟨answer, [], []⟩)
    {k : RequestContext → Session × SessionReaction}
    (hk : ∀ c, s.contexts.lookup n = some c → P (k c).2) : P (s.withContext n k).2 := by
  unfold withContext
  split
  · next c hc => exact hk c hc
  · exact hquiet _

theorem withTarget_reports {P : SessionReaction → Prop} (hquiet : ∀ answer, P ⟨answer, [], []⟩)
    {k : Option TargetService → Session × SessionReaction}
    (hk : ∀ t, s.targets.lookup m = some t → P (k t).2) : P (s.withTarget m k).2 := by
  unfold withTarget
  split
  · next t ht => exact hk t ht
  · exact hquiet _

/-- What holds of a reaction without records and events, and of those of the resolutions and
verifications that a step may make, holds of the reaction of the step. -/
theorem step_reports {P : SessionReaction → Prop} (hquiet : ∀ answer, P ⟨answer, [], []⟩)
    (hresolve : ∀ n m p c t, st = .resolve n m p → s.contexts.lookup n = some c →
      s.targets.lookup m = some t → P (s.resolve n m (p.map Authentication.mk) c t).2)
    (hverify : ∀ method n m c t, st = .verify method n m → s.contexts.lookup n = some c →
      s.targets.lookup m = some (some t) → P (s.verify method n c t).2) : P (s.step st).2 := by
  cases st with
  | resolve n m p =>
    exact withContext_reports hquiet fun c hc => withTarget_reports hquiet fun t ht =>
      hresolve n m p c t rfl hc ht
  | verify method n m =>
    refine withTarget_reports hquiet fun t ht => ?_
    cases t with
    | none => exact hquiet _
    | some t => exact withContext_reports hquiet fun c hc => hverify method n m c t rfl hc ht
  | attach m r =>
    refine withTarget_reports hquiet fun t _ => ?_
    cases t with
    | none => exact hquiet _
    | some t =>
      dsimp only
      split <;> exact hquiet _
  | showTarget m => exact withTarget_reports hquiet fun _ _ => hquiet _
  | addAuthentication ticket a =>
    unfold step
    dsimp only
    split <;> exact hquiet _
  | getAuthentication ticket =>
    unfold step
    dsimp only
    split
    · exact hquiet _
    · split <;> exact hquiet _
  | findService id =>
    unfold step
    dsimp only
    split <;> exact hquiet _
  | request _ _ | target _ _ | chain => exact hquiet _
  | _ => exact withContext_reports hquiet fun _ _ => hquiet _

/-! ## Resolutions and verifications in a session -/

theorem step_resolve {c : RequestContext} {t : Option TargetService}
    (hc : s.contexts.lookup n = some c) (ht : s.targets.lookup m = some t)
    (p : Option Principal) :
    s.step (.resolve n m p) = s.resolve n m (p.map Authentication.mk) c t := by
  simp only [step, withContext_of_lookup hc, withTarget_of_lookup ht]

theorem step_verify {c : RequestContext} {t : TargetService} (hc : s.contexts.lookup n = some c)
    (ht : s.targets.lookup m = some (some t)) (method : Option Text) :
    s.step (.verify method n m) = s.verify method n c t := by
  simp only [step, withContext_of_lookup hc, withTarget_of_lookup ht]

theorem step_resolve_cases (s : Session) (n m : Text) (p : Option Principal) :
    (∃ name, s.step (.resolve n m p) = s.refuse (.unknownName name)) ∨
      ∃ c t, s.contexts.lookup n = some c ∧ s.targets.lookup m = some t ∧
        s.step (.resolve n m p) = s.resolve n m (p.map Authentication.mk) c t := by
  cases hc : s.contexts.lookup n with
  | none => exact Or.inl ⟨n, by simp only [step, withContext, hc]⟩
  | some c =>
    cases ht : s.targets.lookup m with
    | none => exact Or.inl ⟨m, by simp only [step, withContext, withTarget, hc, ht]⟩
    | some t => exact Or.inr ⟨c, t, rfl, rfl, step_resolve hc ht p⟩

theorem step_verify_cases (s : Session) (method : Option Text) (n m : Text) :
    ((s.step (.verify method n m)).1 = s ∧
        ((∃ name, (s.step (.verify method n m)).2.answer = .error (.unknownName name)) ∨
          (s.step (.verify method n m)).2.answer = .ok .noTarget)) ∨
      ∃ c t, s.contexts.lookup n = some c ∧ s.targets.lookup m = some (some t) ∧
        s.step (.verify method n m) = s.verify method n c t := by
  cases ht : s.targets.lookup m with
  | none =>
    have hstep : s.step (.verify method n m) = s.refuse (.unknownName m) := by
      simp only [step, withTarget, ht]
    exact Or.inl ⟨by rw [hstep, refuse], Or.inl ⟨m, by rw [hstep, refuse]⟩⟩
  | some t =>
    cases t with
    | none =>
      have hstep : s.step (.verify method n m) = s.reply .noTarget := by
        simp only [step, withTarget, ht]
      exact Or.inl ⟨by rw [hstep, reply], Or.inr (by rw [hstep, reply])⟩
    | some t =>
      cases hc : s.contexts.lookup n with
      | none =>
        have hstep : s.step (.verify method n m) = s.refuse (.unknownName n) := by
          simp only [step, withTarget, withContext, ht, hc]
        exact Or.inl ⟨by rw [hstep, refuse], Or.inl ⟨n, by rw [hstep, refuse]⟩⟩
      | some c => exact Or.inr ⟨c, t, rfl, rfl, step_verify hc ht method⟩

/-! ## What a resolution in a session answers and writes -/

theorem resolve_contexts_lookup (k : Text) (a : Option Authentication) (c : RequestContext)
    (t : Option TargetService) :
    (s.resolve n m a c t).1.contexts.lookup k =
      if k = n then some (s.chain.resolve a t c).context else s.contexts.lookup k :=
  lookup_putNamed n k _ _

theorem resolve_targets_lookup (k : Text) (a : Option Authentication) (c : RequestContext)
    (t : Option TargetService) :
    (s.resolve n m a c t).1.targets.lookup k =
      if k = m then some (s.chain.resolve a t c).target else s.targets.lookup k :=
  lookup_putNamed m k _ _

theorem resolve_answer_ok_iff {a : Option Authentication} {c : RequestContext}
    {t : Option TargetService} {q : Option Requirement} :
    (s.resolve n m a c t).2.answer = .ok (.requirement q) ↔
      (s.chain.resolve a t c).answer = .ok q := by
  unfold resolve
  dsimp only
  cases (s.chain.resolve a t c).answer <;> simp

theorem resolve_answer_error_iff {a : Option Authentication} {c : RequestContext}
    {t : Option TargetService} {f : ResolutionFault} :
    (s.resolve n m a c t).2.answer = .error (.resolution f) ↔
      (s.chain.resolve a t c).answer = .error f := by
  unfold resolve
  dsimp only
  cases (s.chain.resolve a t c).answer <;> simp

end Session

end StepUp
