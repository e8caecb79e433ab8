import StepUp.Proofs.Chain.Tracing
import StepUp.Proofs.Session.Run

/-!
# Tracing records back to the request

Every record that a request causes should name the request. In a session over the chain of a
configuration that is so for all that resolutions and verifications record, with one exception:
what is recorded about a role rule that cannot be used (`Session.MeetsUnusableRule`) names no
request at all (`Session.records_traced_iff`), as the run of `Session.complaint_untraced` shows.
-/

namespace StepUp

namespace Session

variable {c : Config} {services : ServiceDirectory} {s : Session} {n : Text}
  {ctx : RequestContext} {st : SessionStep} {x : LogRecord}

/-- The step is a resolution that puts a user to a rule that cannot be used. -/
def MeetsUnusableRule (c : Config) (services : ServiceDirectory) (s : Session)
    (ctx : RequestContext) : SessionStep → Prop
  | .resolve _ m _ => ∃ t u d, s.targets.lookup m = some (some t) ∧
      c.ConsultsRule services s.store.store? t ctx u d ∧
        RoleRules.Unusable ⟨s.chain.verifier.registry, c.serviceMethodProperty⟩ d
  | _ => False

/-! ## The records of a resolution -/

theorem resolve_records (s : Session) (m : Text) (a : Option Authentication)
    (t : Option TargetService) {records : List LogRecord}
    (h : Chain.Adds records ctx.requestId (s.chain.resolve a t ctx)) :
    ∃ own, (s.resolve n m a ctx t).2.records = records ++ own ∧ Traced ctx.requestId own := by
  obtain ⟨own, hrecords, hown⟩ := h.records
  refine ⟨own ++ (Delivery.of s.sink s.attempts (s.chain.resolve a t ctx).event).records, ?_,
    hown.append (Delivery.of_traced _ _ h.event)⟩
  rw [← List.append_assoc, ← hrecords]
  rfl

/-- What a resolution records names the request or is about a rule that it met. -/
theorem traces_or_complains (built : Chain.ofConfig? c services s.store.store? = .ok s.chain)
    {m : Text} {p : Option Principal} {t : Option TargetService}
    (ht : s.targets.lookup m = some t)
    (hx : x ∈ (s.resolve n m (p.map Authentication.mk) ctx t).2.records) :
    x.Traces ctx.requestId ∨ (x.Anonymous ∧ x.event ∈ RoleRules.complaints) ∧
      s.MeetsUnusableRule c services ctx (.resolve n m p) := by
  cases t with
  | none =>
    obtain ⟨own, hrecords, hown⟩ := resolve_records (n := n) s m _ none
      (s.chain.resolve_none_adds (p.map Authentication.mk) ctx)
    rw [hrecords, List.nil_append] at hx
    exact Or.inl (hown x hx)
  | some t =>
    obtain ⟨own, hrecords, hown⟩ := resolve_records (n := n) s m _ (some t)
      (s.chain.resolve_adds (p.map Authentication.mk) t ctx)
    rw [hrecords] at hx
    rcases List.mem_append.mp hx with hx | hx
    · obtain ⟨registry, hchain⟩ := Chain.ofConfig?_eq_ok built
      rw [hchain] at hx
      rcases Config.traces_or_mem_evaluate hx with hx | ⟨u, d, hconsults, hx⟩
      · exact Or.inl hx
      · refine Or.inr ⟨RoleRules.anonymous_of_mem_evaluate hx, t, u, d, ht, hconsults, ?_⟩
        rw [hchain]
        exact RoleRules.evaluate_records_ne_nil_iff.mp (List.ne_nil_of_mem hx)
    · exact Or.inl (hown x hx)

/-- A resolution that meets a rule that cannot be used records something that names no request. -/
theorem exists_anonymous (built : Chain.ofConfig? c services s.store.store? = .ok s.chain)
    {m : Text} {p : Option Principal} (hctx : s.contexts.lookup n = some ctx)
    (h : s.MeetsUnusableRule c services ctx (.resolve n m p)) :
    ∃ x ∈ (s.step (.resolve n m p)).2.records, x.Anonymous := by
  obtain ⟨t, u, d, ht, hconsults, hunusable⟩ := h
  obtain ⟨registry, hchain⟩ := Chain.ofConfig?_eq_ok built
  rw [hchain] at hunusable
  obtain ⟨x, hx⟩ := List.exists_mem_of_ne_nil _
    (RoleRules.evaluate_records_ne_nil_iff (u := u).mpr hunusable)
  obtain ⟨own, hrecords, -⟩ := resolve_records (n := n) s m _ (some t)
    (s.chain.resolve_adds (p.map Authentication.mk) t ctx)
  refine ⟨x, ?_, (RoleRules.anonymous_of_mem_evaluate hx).1⟩
  rw [step_resolve hctx ht, hrecords, hchain]
  exact List.mem_append_left _ (Config.mem_find_of_mem_evaluate hconsults hx)

/-! ## Steps -/

/-- What a step on a context records names the request or is about a rule that the step met. -/
theorem step_traces_or_complains
    (built : Chain.ofConfig? c services s.store.store? = .ok s.chain)
    (hn : st.context? = some n) (hctx : s.contexts.lookup n = some ctx)
    (hx : x ∈ (s.step st).2.records) :
    x.Traces ctx.requestId ∨ (x.Anonymous ∧ x.event ∈ RoleRules.complaints) ∧
      s.MeetsUnusableRule c services ctx st := by
  cases st with
  | resolve n' m p =>
    cases hn
    rcases s.step_resolve_cases n m p with ⟨name, hstep⟩ | ⟨ctx', t, hctx', ht, hstep⟩
    · rw [hstep] at hx
      cases hx
    · cases hctx.symm.trans hctx'
      rw [hstep] at hx
      exact traces_or_complains built ht hx
  | verify method n' m =>
    cases hn
    cases ht : s.targets.lookup m with
    | none =>
      simp only [step, withTarget, ht] at hx
      cases hx
    | some t =>
      cases t with
      | none =>
        simp only [step, withTarget, ht] at hx
        cases hx
      | some t =>
        rw [step_verify hctx ht] at hx
        exact Or.inl (Verifier.verify_traced _ _ _ _ x hx)
  | request n' c' => cases hx
  | extract n' m protocols | setParameter n' name value | setFlow n' name value
  | getParameter n' name | getTicket n' | setMarker n' | hasMarker n' =>
    cases hn
    simp only [step, withContext_of_lookup hctx] at hx
    cases hx
  | target m t | attach m r | showTarget m | chain | addAuthentication ticket a
  | getAuthentication ticket | findService id => cases hn

/-- What a step on a context records names the request throughout just if the step meets no rule
that cannot be used. -/
theorem step_traced_iff (built : Chain.ofConfig? c services s.store.store? = .ok s.chain)
    (hn : st.context? = some n) (hctx : s.contexts.lookup n = some ctx) :
    Traced ctx.requestId (s.step st).2.records ↔ ¬ s.MeetsUnusableRule c services ctx st := by
  constructor
  · intro htraced hmeets
    cases st with
    | resolve n' m p =>
      cases hn
      obtain ⟨x, hx, hanonymous⟩ := exists_anonymous built hctx hmeets
      exact hanonymous.not_traces (htraced x hx)
    | _ => exact hmeets
  · intro hmeets x hx
    rcases step_traces_or_complains built hn hctx hx with h | ⟨-, h⟩
    · exact h
    · exact absurd h hmeets

/-- **Tracing.** In a session over the chain of a configuration, with any directory of services,
any store and any audit sink, take a step of a run on a context. What the step records is
structured; it names the request of the context, or tells that a rule cannot be used and names no
request at all. It names the request throughout just if the step does not meet a rule that cannot
be used; no verification does. -/
theorem records_traced_iff (s : Session)
    (built : ∀ store, Chain.ofConfig? c services store = .ok (s.assemble store))
    (steps : List SessionStep) (i : Nat) (taken : steps[i]? = some st)
    (named : st.context? = some n) (live : (s.before steps i).contexts.lookup n = some ctx) :
    ∃ s' reaction, (s.run steps)[i]? = some (s', reaction) ∧
      (∀ x ∈ reaction.records, x.Structured ∧
        (x.Traces ctx.requestId ∨ x.Anonymous ∧ x.event ∈ RoleRules.complaints)) ∧
      ((∀ x ∈ reaction.records, x.Traces ctx.requestId) ↔
        ¬ (s.before steps i).MeetsUnusableRule c services ctx st) := by
  have built' : Chain.ofConfig? c services (s.before steps i).store.store? =
      .ok (s.before steps i).chain := by
    rw [chain, before_assemble]
    exact built _
  refine ⟨_, _, by rw [run_getElem?, taken, Option.map_some], fun x hx => ⟨x.structured, ?_⟩, ?_⟩
  · exact (step_traces_or_complains built' named live hx).imp_right And.left
  · exact step_traced_iff built' named live

/-- The pattern of the rule can be read. All records of the resolution name the request. -/
theorem records_traced_iff_admin :
    let d : ServiceDefinition := ⟨"app", "app", none, [("mfa_attribute_name", "roles"),
      ("mfa_attribute_pattern", "adm.*"), ("authn_method", "sms")]⟩
    let c : Config := { methods := [⟨"sms", 1⟩], services := [d] }
    let registry : Registry := ⟨c.methods, by decide⟩
    let services : ServiceDirectory := .ofList c.services
    let user : Authentication := ⟨⟨"ann", [("roles", .str "admin")]⟩⟩
    let s : Session :=
      { assemble := fun store => ⟨c.resolvers registry services store, { registry := registry }⟩
        services := services
        store := .entries [("TGT-1", user)]
        sink := none }
    let steps : List SessionStep :=
      [.request "r" ⟨[], [("ticketGrantingTicketId", .str "TGT-1")], "r1", false⟩,
        .target "t" { id := "app" }, .resolve "r" "t" none]
    ∃ s' reaction, (s.run steps)[2]? = some (s', reaction) ∧
      ∀ x ∈ reaction.records, x.Traces "r1" := by
  intro d c registry services user s steps
  have built : ∀ store, Chain.ofConfig? c services store = .ok (s.assemble store) :=
    fun _ => rfl
  obtain ⟨s', reaction, hrun, -, hiff⟩ := records_traced_iff s built steps 2 rfl rfl rfl
  refine ⟨s', reaction, hrun, hiff.mpr ?_⟩
  rintro ⟨t, u, d', ht, hconsults, hunusable⟩
  obtain ⟨store, -, hgoverning, -⟩ := hconsults.put
  have ht' : t = { id := "app" } := by
    cases ht
    rfl
  have hd : d' = d := by
    subst ht'
    have hfind : services.find "app" = .ok (some d) := by cbv
    exact Option.some_inj.mp (Except.ok.inj (hgoverning.symm.trans hfind))
  subst hd
  have hstates : RoleRules.States ⟨registry, c.serviceMethodProperty⟩ d
      ⟨"roles", "adm.*", ⟨"sms", 1⟩⟩ := RoleRules.states_iff.mpr ⟨rfl, rfl, rfl, rfl⟩
  obtain ⟨complaint, position, hrefused⟩ := hunusable _ hstates
  have hread : (Pattern.compile "adm.*").isOk = true := by decide +kernel
  rw [hrefused] at hread
  cases hread

/-- The pattern of the rule is malformed. The warning about it, which a resolution on the only
context of the run records, does not tell to which request it belongs. -/
theorem complaint_untraced :
    let d : ServiceDefinition := ⟨"app", "app", none, [("mfa_attribute_name", "roles"),
      ("mfa_attribute_pattern", "("), ("authn_method", "sms")]⟩
    let c : Config := { methods := [⟨"sms", 1⟩], services := [d] }
    let registry : Registry := ⟨c.methods, by decide⟩
    let services : ServiceDirectory := .ofList c.services
    let user : Authentication := ⟨⟨"ann", [("roles", .str "admin")]⟩⟩
    let s : Session :=
      { assemble := fun store => ⟨c.resolvers registry services store, { registry := registry }⟩
        services := services
        store := .entries [("TGT-1", user)]
        sink := none }
    let steps : List SessionStep :=
      [.request "r" ⟨[], [("ticketGrantingTicketId", .str "TGT-1")], "r1", false⟩,
        .target "t" { id := "app" }, .resolve "r" "t" none]
    (∀ store, Chain.ofConfig? c services store = .ok (s.assemble store)) ∧
      ∃ x ∈ (s.run steps).flatMap fun y => y.2.records,
        x.event = ("mfa_role_pattern_invalid" : Text) ∧ x.field? "request_id" = none := by
  intro d c registry services user s steps
  refine ⟨fun _ => rfl, ?_⟩
  decide +kernel +revert

end Session

end StepUp
