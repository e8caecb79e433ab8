import StepUp.Proofs.Session.Call

/-!
# Requests that share a session

Split the names of contexts and of targets into two groups, and let the steps of two runs, each
of which stays within its group, be taken in turns. The runs do not notice each other, for neither
reads what the other writes. `AgreesOn` says that two sessions are the same as far as one group
can see:

* `AgreesOn.step`: a step of the group answers the same in both and keeps them in agreement;
* `AgreesOn.step_other`: a step of the other group does not show, unless it changes the store.

Taken one step at a time, these relate the run of both groups to the run of one alone
(`run_agreesOn`, `calls_interleaves`). The number of writes to the sink is no part of what a group
sees, and an answer does not depend on it; what a sink holds in the end may.
-/

namespace StepUp

/-- A split of the names of contexts and of targets into two groups. -/
structure Grouping where
  context : Text → Bool
  target : Text → Bool

/-- The step names no context and no target of the other group. -/
structure Grouping.Within (g : Grouping) (b : Bool) (st : SessionStep) : Prop where
  context : ∀ n ∈ st.context?, g.context n = b
  target : ∀ m ∈ st.target?, g.target m = b

instance (g : Grouping) (b : Bool) (st : SessionStep) : Decidable (g.Within b st) :=
  decidable_of_iff ((∀ n ∈ st.context?, g.context n = b) ∧ ∀ m ∈ st.target?, g.target m = b)
    ⟨fun h => ⟨h.1, h.2⟩, fun h => ⟨h.context, h.target⟩⟩

/-! ## Taking turns -/

section Turns

variable {α β : Type} {b b' : Bool} {xs ys zs : List α}

/-- What belongs to a group, in order. -/
def ofGroup (b : Bool) (all : List (Bool × α)) : List α :=
  (all.filter fun x => x.1 == b).map Prod.snd

theorem ofGroup_cons_self (b : Bool) (x : α) (rest : List (Bool × α)) :
    ofGroup b ((b, x) :: rest) = x :: ofGroup b rest := by
  simp [ofGroup]

theorem ofGroup_cons_of_ne (h : b' ≠ b) (x : α) (rest : List (Bool × α)) :
    ofGroup b ((b', x) :: rest) = ofGroup b rest := by
  simp [ofGroup, h]

/-- The third list is made of the first two, each of which keeps its order. -/
inductive Interleaves {α : Type} : List α → List α → List α → Prop where
  | nil : Interleaves [] [] []
  | left {x : α} {xs ys zs : List α} (h : Interleaves xs ys zs) :
      Interleaves (x :: xs) ys (x :: zs)
  | right {y : α} {xs ys zs : List α} (h : Interleaves xs ys zs) :
      Interleaves xs (y :: ys) (y :: zs)

namespace Interleaves

theorem append_left (h : Interleaves xs ys zs) (ws : List α) :
    Interleaves (ws ++ xs) ys (ws ++ zs) := by
  induction ws with
  | nil => exact h
  | cons w ws ih => exact .left ih

theorem append_right (h : Interleaves xs ys zs) (ws : List α) :
    Interleaves xs (ws ++ ys) (ws ++ zs) := by
  induction ws with
  | nil => exact h
  | cons w ws ih => exact .right ih

theorem flatMap (h : Interleaves xs ys zs) (f : α → List β) :
    Interleaves (xs.flatMap f) (ys.flatMap f) (zs.flatMap f) := by
  induction h with
  | nil => exact .nil
  | left _ ih => exact ih.append_left _
  | right _ ih => exact ih.append_right _

end Interleaves

end Turns

namespace Session

/-- The session that a run ends in. -/
def after (s : Session) (steps : List SessionStep) : Session := s.before steps steps.length

/-- What the steps of a run answer. -/
def answers (s : Session) (steps : List SessionStep) : List (Except SessionFault SessionReply) :=
  (s.run steps).map fun x => x.2.answer

/-- The store is the same all along a run. -/
def KeepsStore (s : Session) (steps : List SessionStep) : Prop :=
  ∀ i, (s.before steps i).store = s.store

/-- Every write to the sink meets the same fate. -/
def Steady (s : Session) : Prop :=
  ∀ sink, s.sink = some sink → ∀ i j, (sink.errorOf i).isNone = (sink.errorOf j).isNone

/-- The two sessions are the same as far as a group can see. -/
structure AgreesOn (g : Grouping) (b : Bool) (s s' : Session) : Prop where
  assemble : s'.assemble = s.assemble
  services : s'.services = s.services
  store : s'.store = s.store
  contexts : ∀ n, g.context n = b → s'.contexts.lookup n = s.contexts.lookup n
  targets : ∀ m, g.target m = b → s'.targets.lookup m = s.targets.lookup m

variable {g : Grouping} {b b' : Bool} {s s' s₀ s₁ : Session} {n m : Text} {st : SessionStep}
  {rest : List SessionStep}

namespace AgreesOn

theorem refl (g : Grouping) (b : Bool) (s : Session) : AgreesOn g b s s :=
  ⟨rfl, rfl, rfl, fun _ _ => rfl, fun _ _ => rfl⟩

theorem trans (h : AgreesOn g b s s') (h' : AgreesOn g b s' s₁) : AgreesOn g b s s₁ :=
  ⟨h'.assemble.trans h.assemble, h'.services.trans h.services, h'.store.trans h.store,
    fun n hn => (h'.contexts n hn).trans (h.contexts n hn),
    fun m hm => (h'.targets m hm).trans (h.targets m hm)⟩

theorem chain (h : AgreesOn g b s s') : s'.chain = s.chain := by
  unfold Session.chain
  rw [h.assemble, h.store]

/-! ### Writing the same -/

theorem putContext (h : AgreesOn g b s s') (n : Text) (c : RequestContext) :
    AgreesOn g b (s.putContext n c) (s'.putContext n c) where
  assemble := h.assemble
  services := h.services
  store := h.store
  contexts k hk := by
    unfold Session.putContext
    dsimp only
    rw [lookup_putNamed, lookup_putNamed, h.contexts k hk]
  targets := h.targets

theorem putTarget (h : AgreesOn g b s s') (m : Text) (t : Option TargetService) :
    AgreesOn g b (s.putTarget m t) (s'.putTarget m t) where
  assemble := h.assemble
  services := h.services
  store := h.store
  contexts := h.contexts
  targets k hk := by
    unfold Session.putTarget
    dsimp only
    rw [lookup_putNamed, lookup_putNamed, h.targets k hk]

/-! ### Reacting the same -/

/-- Two steps that leave sessions in agreement and answer the same. -/
def Alike (g : Grouping) (b : Bool) (x y : Session × SessionReaction) : Prop :=
  AgreesOn g b x.1 y.1 ∧ y.2.answer = x.2.answer

theorem reply (h : AgreesOn g b s s') (r : SessionReply) : Alike g b (s.reply r) (s'.reply r) :=
  ⟨h, rfl⟩

theorem refuse (h : AgreesOn g b s s') (f : SessionFault) :
    Alike g b (s.refuse f) (s'.refuse f) := ⟨h, rfl⟩

theorem withContext (h : AgreesOn g b s s') (hn : g.context n = b)
    {f f' : RequestContext → Session × SessionReaction} (hf : ∀ c, Alike g b (f c) (f' c)) :
    Alike g b (s.withContext n f) (s'.withContext n f') := by
  unfold Session.withContext
  rw [h.contexts n hn]
  cases s.contexts.lookup n with
  | none => exact h.refuse _
  | some c => exact hf c

theorem withTarget (h : AgreesOn g b s s') (hm : g.target m = b)
    {f f' : Option TargetService → Session × SessionReaction} (hf : ∀ t, Alike g b (f t) (f' t)) :
    Alike g b (s.withTarget m f) (s'.withTarget m f') := by
  unfold Session.withTarget
  rw [h.targets m hm]
  cases s.targets.lookup m with
  | none => exact h.refuse _
  | some t => exact hf t

theorem resolve (h : AgreesOn g b s s') (n m : Text) (a : Option Authentication)
    (c : RequestContext) (t : Option TargetService) :
    Alike g b (s.resolve n m a c t) (s'.resolve n m a c t) := by
  unfold Session.resolve
  rw [h.chain]
  have hput := (h.putContext n (s.chain.resolve a t c).context).putTarget m
    (s.chain.resolve a t c).target
  exact ⟨⟨hput.assemble, hput.services, hput.store, hput.contexts, hput.targets⟩, rfl⟩

theorem verify (h : AgreesOn g b s s') (method : Option Text) (n : Text) (c : RequestContext)
    (t : TargetService) : Alike g b (s.verify method n c t) (s'.verify method n c t) := by
  unfold Session.verify
  rw [h.chain]
  exact ⟨h.putContext n _, rfl⟩

/-- A step of the group answers the same in sessions that agree, and leaves them in agreement. -/
theorem step (h : AgreesOn g b s s') (hst : g.Within b st) :
    Alike g b (s.step st) (s'.step st) := by
  cases st with
  | request n c => exact (h.putContext n c).reply .done
  | target m t => exact (h.putTarget m (some t)).reply .done
  | extract n m protocols =>
    exact h.withContext (hst.context n rfl) fun c => (h.putTarget m _).reply _
  | resolve n m p =>
    exact h.withContext (hst.context n rfl) fun c =>
      h.withTarget (hst.target m rfl) fun t => h.resolve n m _ c t
  | verify method n m =>
    refine h.withTarget (hst.target m rfl) fun t => ?_
    cases t with
    | none => exact h.reply .noTarget
    | some t => exact h.withContext (hst.context n rfl) fun c => h.verify method n c t
  | attach m r =>
    refine h.withTarget (hst.target m rfl) fun t => ?_
    cases t with
    | none => exact h.reply .noTarget
    | some t =>
      dsimp only
      cases t.attach? r with
      | ok t => exact (h.putTarget m (some t)).reply _
      | error f => exact h.refuse _
  | showTarget m => exact h.withTarget (hst.target m rfl) fun t => h.reply _
  | chain =>
    unfold Session.step
    rw [h.chain]
    exact h.reply _
  | addAuthentication ticket a =>
    unfold Session.step
    dsimp only
    rw [h.store]
    cases s.store with
    | entries list => exact ⟨⟨h.assemble, h.services, rfl, h.contexts, h.targets⟩, rfl⟩
    | absent | failing f => exact h.refuse _
  | getAuthentication ticket =>
    unfold Session.step
    dsimp only
    rw [h.store]
    cases s.store.store? with
    | none => exact h.refuse _
    | some store =>
      dsimp only
      cases store.find ticket with
      | ok a => exact h.reply _
      | error f => exact h.refuse _
  | findService id =>
    unfold Session.step
    dsimp only
    rw [h.services]
    cases s.services.find id with
    | ok d => exact h.reply _
    | error f => exact h.refuse _
  | setParameter n name value | setFlow n name value =>
    exact h.withContext (hst.context n rfl) fun c => (h.putContext n _).reply .done
  | getParameter n name => exact h.withContext (hst.context n rfl) fun c => h.reply _
  | getTicket n | hasMarker n => exact h.withContext (hst.context n rfl) fun c => h.reply _
  | setMarker n => exact h.withContext (hst.context n rfl) fun c => (h.putContext n _).reply _

/-- A step of the other group does not show, as long as it keeps the store. -/
theorem step_other (h : AgreesOn g b s s') (hst : g.Within b' st) (hb : b' ≠ b)
    (hstore : (s.step st).1.store = s.store) : AgreesOn g b (s.step st).1 s' where
  assemble := h.assemble.trans (s.step_assemble st).symm
  services := h.services.trans (s.step_services st).symm
  store := h.store.trans hstore.symm
  contexts n hn := by
    have hne : st.context? ≠ some n := fun hnamed => hb ((hst.context n hnamed).symm.trans hn)
    exact (h.contexts n hn).trans (step_contexts_of_ne hne).symm
  targets m hm := by
    have hne : st.target? ≠ some m := fun hnamed => hb ((hst.target m hnamed).symm.trans hm)
    exact (h.targets m hm).trans (step_targets_of_ne hne).symm

/-- A step of the group makes the same call. -/
theorem call? (h : AgreesOn g b s s') (hst : g.Within b st) : s'.call? st = s.call? st := by
  cases st with
  | resolve n m p =>
    simp only [Session.call?, h.contexts n (hst.context n rfl), h.targets m (hst.target m rfl),
      h.chain]
  | _ => rfl

end AgreesOn

theorem answers_cons (s : Session) (st : SessionStep) (rest : List SessionStep) :
    s.answers (st :: rest) = (s.step st).2.answer :: (s.step st).1.answers rest := rfl

theorem KeepsStore.cons (h : s.KeepsStore (st :: rest)) :
    (s.step st).1.store = s.store ∧ (s.step st).1.KeepsStore rest := by
  have hfirst : (s.step st).1.store = s.store := h 1
  exact ⟨hfirst, fun i => (h (i + 1)).trans hfirst.symm⟩

theorem keepsStore_of_not_adds
    (h : ∀ st ∈ rest, ∀ ticket a, st ≠ .addAuthentication ticket a) : s.KeepsStore rest :=
  before_of_step (P := fun s' => s'.store = s.store) rfl
    (fun _ st hst hs => (step_store (h st hst)).trans hs)

/-! ## A run of both groups and the run of one alone -/

section Run

variable {steps : List (Bool × SessionStep)}

/-- The run of both groups answers the steps of one as the run of that group alone does, and ends
in agreement with it. -/
theorem run_agreesOn (h : AgreesOn g b s s') (within : ∀ x ∈ steps, g.Within x.1 x.2)
    (kept : s.KeepsStore (steps.map Prod.snd)) :
    ofGroup b ((steps.map Prod.fst).zip (s.answers (steps.map Prod.snd))) =
        s'.answers (ofGroup b steps) ∧
      AgreesOn g b (s.after (steps.map Prod.snd)) (s'.after (ofGroup b steps)) := by
  induction steps generalizing s s' with
  | nil => exact ⟨rfl, h⟩
  | cons x rest ih =>
    obtain ⟨b', st⟩ := x
    obtain ⟨hst, hrest⟩ := List.forall_mem_cons.mp within
    obtain ⟨hstore, hkept⟩ := kept.cons
    rw [List.map_cons, List.map_cons, answers_cons, List.zip_cons_cons]
    rcases eq_or_ne b' b with rfl | hb
    · obtain ⟨hnext, hanswer⟩ := h.step hst
      obtain ⟨hanswers, hafter⟩ := ih hnext hrest hkept
      rw [ofGroup_cons_self, ofGroup_cons_self, answers_cons, hanswer, hanswers]
      exact ⟨rfl, hafter⟩
    · rw [ofGroup_cons_of_ne hb, ofGroup_cons_of_ne hb]
      exact ih (h.step_other hst hb hstore) hrest hkept

/-- Its calls are those of the two groups, taken in turns. -/
theorem calls_interleaves (h₀ : AgreesOn g false s s₀) (h₁ : AgreesOn g true s s₁)
    (within : ∀ x ∈ steps, g.Within x.1 x.2) (kept : s.KeepsStore (steps.map Prod.snd)) :
    Interleaves (s₀.calls (ofGroup false steps)) (s₁.calls (ofGroup true steps))
      (s.calls (steps.map Prod.snd)) := by
  induction steps generalizing s s₀ s₁ with
  | nil => exact .nil
  | cons x rest ih =>
    obtain ⟨b, st⟩ := x
    obtain ⟨hst, hrest⟩ := List.forall_mem_cons.mp within
    obtain ⟨hstore, hkept⟩ := kept.cons
    cases b with
    | false =>
      have hcalls := ih (h₀.step hst).1 (h₁.step_other hst Bool.false_ne_true hstore) hrest hkept
      rw [ofGroup_cons_self, ofGroup_cons_of_ne Bool.false_ne_true, calls, h₀.call? hst]
      exact hcalls.append_left _
    | true =>
      have htrue : true ≠ false := Bool.false_ne_true.symm
      have hcalls := ih (h₀.step_other hst htrue hstore) (h₁.step hst).1 hrest hkept
      rw [ofGroup_cons_self, ofGroup_cons_of_ne htrue, calls, h₁.call? hst]
      exact hcalls.append_right _

end Run

/-! ## Independence -/

/-- A run of both groups is for each group what the run of its steps alone is: the same answers,
the same contexts and targets at the end, and the events of both, each in their order. What the
run writes to the sink is made of what the two write, provided that the sink does not take one
event and refuse another. -/
structure RunsApart (s : Session) (g : Grouping) (steps : List (Bool × SessionStep)) : Prop where
  answers : ∀ b, ofGroup b ((steps.map Prod.fst).zip (s.answers (steps.map Prod.snd))) =
    s.answers (ofGroup b steps)
  contexts : ∀ b n, g.context n = b → (s.after (steps.map Prod.snd)).contexts.lookup n =
    (s.after (ofGroup b steps)).contexts.lookup n
  targets : ∀ b m, g.target m = b → (s.after (steps.map Prod.snd)).targets.lookup m =
    (s.after (ofGroup b steps)).targets.lookup m
  events : Interleaves (Call.events (s.calls (ofGroup false steps)))
    (Call.events (s.calls (ofGroup true steps))) (Call.events (s.calls (steps.map Prod.snd)))
  audit : s.Steady → Interleaves (s.audit (ofGroup false steps)) (s.audit (ofGroup true steps))
    (s.audit (steps.map Prod.snd))

theorem Steady.audit_eq (h : s.Steady) (steps : List SessionStep) :
    s.audit steps = if s.takes then Call.events (s.calls steps) else [] := by
  refine audit_eq_of_takes fun s' hs' => ?_
  unfold takes
  rw [hs']
  cases hsink : s.sink with
  | none => rfl
  | some sink => exact h sink hsink s'.attempts s.attempts

/-- **Requests do not influence each other.** Take a run over one chain, and a split of the names
into two groups such that each step names only one. As long as the store stays the same, the
groups run apart, whatever the order in which their steps are taken. -/
theorem groups_run_apart (s : Session) (g : Grouping) (steps : List (Bool × SessionStep))
    (within : ∀ x ∈ steps, g.Within x.1 x.2) (kept : s.KeepsStore (steps.map Prod.snd)) :
    s.RunsApart g steps := by
  have hrun (b : Bool) := run_agreesOn (AgreesOn.refl g b s) within kept
  have hevents := (calls_interleaves (AgreesOn.refl g false s) (AgreesOn.refl g true s) within
    kept).flatMap fun k => k.resolution.event.toList
  refine ⟨fun b => (hrun b).1, fun b n hn => ?_, fun b m hm => ?_, hevents, fun hsteady => ?_⟩
  · exact ((hrun b).2.contexts n hn).symm
  · exact ((hrun b).2.targets m hm).symm
  · rw [hsteady.audit_eq, hsteady.audit_eq, hsteady.audit_eq]
    split
    · exact hevents
    · exact .nil

/-- Two clients ask for the same unknown method. The second one is rejected as well, although the
first one was before. -/
theorem groups_run_apart_unknown :
    let registry : Registry := ⟨[⟨"fingerprint", 2⟩], by decide⟩
    let config : Config := { methods := registry.methods }
    let services : ServiceDirectory := .ofList []
    let s : Session :=
      { assemble := fun store => ⟨config.resolvers registry services store,
          { registry := registry }⟩
        services := services
        store := .entries []
        sink := some .working }
    let g : Grouping := ⟨fun n => n == "b", fun m => m == "v"⟩
    let asks (id : Text) : RequestContext := ⟨[("authn_method", .str "bogus")], [], id, false⟩
    let steps : List (Bool × SessionStep) :=
      [(false, .request "a" (asks "r1")), (true, .request "b" (asks "r2")),
        (false, .target "u" { id := "app" }), (true, .target "v" { id := "app" }),
        (false, .resolve "a" "u" none), (true, .resolve "b" "v" none)]
    s.RunsApart g steps ∧
      (ofGroup true ((steps.map Prod.fst).zip (s.answers (steps.map Prod.snd)))).getLast? =
        some (.error (.resolution (.rejected ⟨some "bogus", some "app"⟩))) ∧
      Interleaves (s.audit (ofGroup false steps)) (s.audit (ofGroup true steps))
        (s.audit (steps.map Prod.snd)) := by
  intro registry config services s g asks steps
  have apart : s.RunsApart g steps := by
    refine groups_run_apart s g steps (by decide) ?_
    refine keepsStore_of_not_adds fun st hst ticket a hadds => ?_
    subst hadds
    simp [steps] at hst
  have steady : s.Steady := by
    rintro sink ⟨⟩ i j
    rfl
  refine ⟨apart, ?_, apart.audit steady⟩
  rw [apart.answers]
  rfl

end Session

end StepUp
