import StepUp.Proofs.Config.Policy
import StepUp.Proofs.Session.Frame

/-!
# When the host's collaborators are down

The chain of a configuration asks the host's directory of services for every request that does not
ask for a method itself, and the store of authentications for every request that comes with a
ticket and is left to the role rules. If the one that is asked is down, the resolution fails, so
that an opinion that is lost is not taken for none; and a request that asks for a method itself
does not notice, since neither is asked (`outage_fails_closed`).
-/

namespace StepUp

/-- The directory fails whatever it is asked. -/
def ServiceDirectory.Down (services : ServiceDirectory) : Prop :=
  ∀ id, ∃ f, services.find id = .error f

/-- The store fails whatever it is asked. -/
def AuthenticationStore.Down (store : AuthenticationStore) : Prop :=
  ∀ ticket, ∃ f, store.find ticket = .error f

theorem Resolver.registeredService_of_failure {services : ServiceDirectory} {t : TargetService}
    {f : HostFailure} (h : services.find t.id = .error f) (property : Text)
    (default : Option Text) (a : Option Authentication) (c : RequestContext) :
    ((registeredService services property default).propose a t c).outcome = .error f := by
  simp only [registeredService, h]
  rfl

theorem Resolver.mfaRole_of_failure {store : AuthenticationStore} {ticket : Text}
    {f : HostFailure} {c : RequestContext} (hticket : c.ticket? = some ticket)
    (h : store.find ticket = .error f) (rules : RoleRules) (services : ServiceDirectory)
    (selection : RoleSelection) (a : Option Authentication) (t : TargetService) :
    ((mfaRole rules services store selection).propose a t c).outcome = .error f := by
  simp only [mfaRole, hticket, h]
  rfl

theorem Resolver.not_passes_of_failure {r : Resolver} {a : Option Authentication}
    {t : TargetService} {c : RequestContext} {f : HostFailure}
    (h : (r.propose a t c).outcome = .error f) : ¬ r.Passes a t c := by
  rintro (hnone | ⟨m, hsome, -⟩)
  · cases h.symm.trans hnone
  · cases h.symm.trans hsome

/-! ## The chain of a configuration -/

namespace Config.Valid

variable {c : Config} {services : ServiceDirectory} {store : Option AuthenticationStore}
  {a : Option Authentication} {t : TargetService} {ctx : RequestContext}

/-- A request that does not ask for a method comes to grief over a directory that is down. -/
theorem raises_of_directory_down (h : c.Valid) (down : services.Down)
    (unasked : ∀ m, ¬ ctx.Asks c.methodParameter m) :
    ∃ r f, (h.chain services store).Raises a t ctx r f := by
  obtain ⟨f, hf⟩ := down t.id
  have hout := Resolver.registeredService_of_failure hf c.serviceMethodProperty c.defaultMethod
    a ctx
  refine ⟨_, f, ⟨[.requestParameter c.methodParameter], _, resolvers_eq .., ?_,
    Resolver.not_passes_of_failure hout⟩, hout⟩
  intro r hr
  cases List.mem_singleton.mp hr
  exact requestParameter_passes unasked

/-- One with a ticket that is left to the role rules does so over a store that is down. -/
theorem raises_of_store_down (h : c.Valid) {definitions : List ServiceDefinition}
    {store : AuthenticationStore} (down : store.Down)
    (unasked : ∀ m, ¬ ctx.Asks c.methodParameter m)
    (undemanded : ∀ m, ¬ c.ServiceDemands definitions t m) {ticket : Text}
    (held : ctx.ticket? = some ticket) :
    ∃ r f, (h.chain (.ofList definitions) (some store)).Raises a t ctx r f := by
  obtain ⟨f, hf⟩ := down ticket
  have hout := Resolver.mfaRole_of_failure held hf ⟨h.registry, c.serviceMethodProperty⟩
    (.ofList definitions) c.roleSelection a t
  refine ⟨_, f, ⟨[.requestParameter c.methodParameter,
    .registeredService (.ofList definitions) c.serviceMethodProperty c.defaultMethod],
    _, rfl, ?_, Resolver.not_passes_of_failure hout⟩, hout⟩
  intro r hr
  rcases List.mem_cons.mp hr with rfl | hr
  · exact requestParameter_passes unasked
  · cases List.mem_singleton.mp hr
    exact registeredService_passes undemanded

/-- One that asks for a method is resolved without the help of the host. -/
theorem resolve_of_asked (h : c.Valid) {m : Text} (asked : ctx.Asks c.methodParameter m)
    (services' : ServiceDirectory) (store' : Option AuthenticationStore)
    (target : Option TargetService) :
    (h.chain services' store').resolve a target ctx =
      (h.chain services store).resolve a target ctx := by
  cases target with
  | none => rfl
  | some t =>
    have hout := Resolver.requestParameter_of_asked (a := a) (t := t) asked
    have hfind (services : ServiceDirectory) (store : Option AuthenticationStore) :
        Chain.find a t ctx (c.resolvers h.registry services store) =
          Chain.find a t ctx [.requestParameter c.methodParameter] := by
      rw [resolvers_eq]
      exact Chain.find_append_cons (Resolver.not_passes_of_proposes hout asked.nonblank) [] _
    simp only [Chain.resolve, Chain.judge, chain, hfind]

end Config.Valid

/-! ## A session -/

namespace Session

/-- The step fails, and leaves every context and every target as it was. -/
structure FailsClosed (s : Session) (st : SessionStep) : Prop where
  fails : ∃ reason, (s.step st).2.answer = .error (.resolution (.failed reason))
  contexts : ∀ k, (s.step st).1.contexts.lookup k = s.contexts.lookup k
  targets : ∀ k, (s.step st).1.targets.lookup k = s.targets.lookup k

variable {s : Session} {n m : Text} {p : Option Principal} {ctx : RequestContext}
  {t : TargetService}

theorem failsClosed_of_raises (hc : s.contexts.lookup n = some ctx)
    (ht : s.targets.lookup m = some (some t))
    (h : ∃ r f, s.chain.Raises (p.map Authentication.mk) t ctx r f) :
    s.FailsClosed (.resolve n m p) := by
  obtain ⟨r, f, raised⟩ := h
  have hending := Chain.ending_of_ends (.failed raised)
  have hcontext := congrArg Ending.context hending
  have htarget := congrArg Ending.target hending
  have hstep := step_resolve hc ht p
  refine ⟨⟨Chain.failureReason r.name f, ?_⟩, fun k => ?_, fun k => ?_⟩
  · rw [hstep]
    exact resolve_answer_error_iff.mpr (congrArg Ending.answer hending)
  · rw [hstep, resolve_contexts_lookup]
    split
    · next hk =>
      rw [hk, hc]
      exact congrArg some hcontext
    · rfl
  · rw [hstep, resolve_targets_lookup]
    split
    · next hk =>
      rw [hk, ht]
      exact congrArg some htarget
    · rfl

/-- What a step shows and leaves: its answer, records and events, the contexts and the targets. -/
def shown (s : Session) (st : SessionStep) : SessionReaction × List (Text × RequestContext) ×
    List (Text × Option TargetService) :=
  ((s.step st).2, (s.step st).1.contexts, (s.step st).1.targets)

/-- The two sessions have the same contexts and targets, and write to the same sink. They may go by
other chains, services and stores. -/
structure SameRequests (s s' : Session) : Prop where
  contexts : s'.contexts = s.contexts
  targets : s'.targets = s.targets
  sink : s'.sink = s.sink
  attempts : s'.attempts = s.attempts

/-- A resolution shows the same in such sessions if their chains make the same of the request. -/
theorem SameRequests.shown_resolve {s' : Session} (h : SameRequests s s')
    (hc : s.contexts.lookup n = some ctx)
    (hchain : ∀ a target, s'.chain.resolve a target ctx = s.chain.resolve a target ctx) :
    s'.shown (.resolve n m p) = s.shown (.resolve n m p) := by
  have hc' : s'.contexts.lookup n = some ctx := by rw [h.contexts, hc]
  cases ht : s.targets.lookup m with
  | none =>
    have ht' : s'.targets.lookup m = none := by rw [h.targets, ht]
    simp only [shown, step, withContext_of_lookup hc, withContext_of_lookup hc', withTarget, ht,
      refuse, h.contexts, h.targets]
  | some t =>
    have ht' : s'.targets.lookup m = some t := by rw [h.targets, ht]
    simp only [shown, step_resolve hc ht, step_resolve hc' ht', resolve, hchain, h.sink,
      h.attempts, putTarget, putContext, h.contexts, h.targets]

/-- **Collaborators that are down.** A valid configuration describes a chain over any directory of
services and any store of authentications. Take a session that goes by it.

* If the directory is down, a resolution with a target fails closed unless the request asks for a
  method.
* If the services are held in a list and the store is down, a resolution with a target fails closed
  if the request does not ask for a method, the definition of the target does not demand one and
  the flow has a ticket.
* If the request asks for a method, a resolution shows and leaves the same as in a session over any
  other directory and store. -/
theorem outage_fails_closed {v : Json} {c : Config} (valid : Config.check v = .ok c)
    (services : ServiceDirectory) (store : Option AuthenticationStore) :
    ∃ chain, Chain.ofConfig? c services store = .ok chain ∧ ∀ s : Session, s.chain = chain →
      (services.Down → ∀ n m p ctx t, s.contexts.lookup n = some ctx →
        s.targets.lookup m = some (some t) → (∀ x, ¬ ctx.Asks c.methodParameter x) →
          s.FailsClosed (.resolve n m p)) ∧
      (∀ definitions down, services = .ofList definitions → store = some down → down.Down →
        ∀ n m p ctx t ticket, s.contexts.lookup n = some ctx →
          s.targets.lookup m = some (some t) → (∀ x, ¬ ctx.Asks c.methodParameter x) →
            (∀ x, ¬ c.ServiceDemands definitions t x) → ctx.ticket? = some ticket →
              s.FailsClosed (.resolve n m p)) ∧
      ∀ services' store' chain', Chain.ofConfig? c services' store' = .ok chain' →
        ∀ s' : Session, s'.chain = chain' → SameRequests s s' →
          ∀ n m p ctx x, s.contexts.lookup n = some ctx → ctx.Asks c.methodParameter x →
            s'.shown (.resolve n m p) = s.shown (.resolve n m p) := by
  have h := Config.valid_of_check valid
  refine ⟨h.chain services store, h.ofConfig?_eq services store, fun s hchain => ⟨?_, ?_, ?_⟩⟩
  · intro down n m p ctx t hc ht unasked
    refine failsClosed_of_raises hc ht ?_
    rw [hchain]
    exact h.raises_of_directory_down down unasked
  · rintro definitions down rfl rfl hdown n m p ctx t ticket hc ht unasked undemanded held
    refine failsClosed_of_raises hc ht ?_
    rw [hchain]
    exact h.raises_of_store_down hdown unasked undemanded held
  · intro services' store' chain' hbuilt s' hchain' hsame n m p ctx x hc asked
    cases (h.ofConfig?_eq services' store').symm.trans hbuilt
    refine hsame.shown_resolve hc fun a target => ?_
    rw [hchain, hchain']
    exact h.resolve_of_asked asked services' store' target

/-- Directory or store are down: the user's attribute names a method of the configuration, and yet
the resolution fails. The request that asks for that method is served all the same. -/
theorem outage_fails_closed_sms :
    let v : Json := .obj [
      ("authentication_methods", .arr [.obj [("name", .str "sms"), ("rank", .int 1)]])]
    let c : Config := { methods := [⟨"sms", 1⟩] }
    let down : HostFailure := ⟨"OSError", "down"⟩
    let user : Principal := ⟨"ann", [("authn_method", .str "sms")]⟩
    let flow : List (Text × Json) := [("ticketGrantingTicketId", .str "TGT-1")]
    let session (chain : Chain) : Session :=
      { assemble := fun _ => chain
        services := .ofList []
        store := .absent
        sink := none
        contexts := [("idle", ⟨[], flow, "r1", false⟩),
          ("asks", ⟨[("authn_method", .str "sms")], flow, "r2", false⟩)]
        targets := [("t", some { id := "app" })] }
    Config.check v = .ok c ∧
      ∃ directoryDown storeDown healthy,
        Chain.ofConfig? c (.failing down) (some (.ofList [])) = .ok directoryDown ∧
        Chain.ofConfig? c (.ofList []) (some (.failing down)) = .ok storeDown ∧
        Chain.ofConfig? c (.ofList []) (some (.ofList [])) = .ok healthy ∧
        (session directoryDown).FailsClosed (.resolve "idle" "t" (some user)) ∧
        (session storeDown).FailsClosed (.resolve "idle" "t" (some user)) ∧
        (session healthy).shown (.resolve "asks" "t" none) =
          (session storeDown).shown (.resolve "asks" "t" none) := by
  intro v c down user flow session
  have valid : Config.check v = .ok c := by cbv
  obtain ⟨directoryDown, hdirectory, hfirst⟩ :=
    outage_fails_closed valid (.failing down) (some (.ofList []))
  obtain ⟨storeDown, hstore, hsecond⟩ :=
    outage_fails_closed valid (.ofList []) (some (.failing down))
  obtain ⟨healthy, hhealthy, -⟩ := outage_fails_closed valid (.ofList []) (some (.ofList []))
  obtain ⟨hclosed, -, -⟩ := hfirst (session directoryDown) rfl
  obtain ⟨-, hclosed', hsame⟩ := hsecond (session storeDown) rfl
  let idle : RequestContext := ⟨[], flow, "r1", false⟩
  let t : TargetService := { id := "app" }
  have unasked : ∀ m, ¬ idle.Asks c.methodParameter m :=
    RequestContext.parameter?_eq_none_iff.mp (by cbv)
  have undemanded : ∀ m, ¬ c.ServiceDemands [] t m := by
    rintro m ⟨d, ⟨before, after, hnil, -⟩, -⟩
    simp at hnil
  refine ⟨valid, directoryDown, storeDown, healthy, hdirectory, hstore, hhealthy, ?_, ?_, ?_⟩
  · exact hclosed (fun _ => ⟨down, rfl⟩) "idle" "t" _ idle t rfl rfl unasked
  · exact hclosed' [] (.failing down) rfl rfl (fun _ => ⟨down, rfl⟩) "idle" "t" _ idle t "TGT-1"
      rfl rfl unasked undemanded (by cbv)
  · exact hsame _ _ healthy hhealthy (session healthy) rfl ⟨rfl, rfl, rfl, rfl⟩ "asks" "t" none _
      "sms" rfl (RequestContext.parameter?_eq_some_iff.mp (by cbv))

end Session

end StepUp
