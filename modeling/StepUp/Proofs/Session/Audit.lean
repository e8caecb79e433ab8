import StepUp.Proofs.Chain.Ending
import StepUp.Proofs.Chain.Telling
import StepUp.Proofs.Session.Call

/-!
# What the audit log says

`Call.EndsAs` says how a call ended, in terms of what it returned or raised and of why; each call
ends in just one of these ways (`Call.endsAs_unique`). `Call.Tells` is what an event has to say of
a call. With a verifier that goes by its registry each call is told by an event, and rightly so
(`Call.exists_tells`); the one way to end without an event, `Chain.Ends.unregistered`, takes a
verifier that lets everything through. A sink that works writes all events, so that how the calls
of a run ended can be read off from the log (`audit_tells`).
-/

namespace StepUp

theorem HostFailure.describe_ne_nil (f : HostFailure) : f.describe ≠ [] := by
  have hcolon : (": " : Text) ≠ [] := by decide
  simp [describe, hcolon]

theorem Chain.conflictReason_ne_nil (t : TargetService) (existing required : Requirement) :
    conflictReason t existing required ≠ [] := by
  have hclose : (")" : Text) ≠ [] := by decide
  simp [conflictReason, hclose]

namespace Call

variable {k : Call} {e : AuditEvent} {o o' : Outcome}

/-- What the first resolver that does not pass proposes. -/
def Candidate (k : Call) (r : Resolver) (m : Text) : Prop :=
  ∃ t, k.target = some t ∧ k.chain.Proposes k.user t k.context r m

/-- How a call ends: it returns a requirement; it rejects the candidate; it fails; it lets an
unsupported candidate pass, since the request is marked; it has no target or no candidate. -/
def EndsAs (k : Call) : Outcome → Prop
  | .verified => ∃ q, k.resolution.answer = .ok (some q)
  | .rejected => ∃ x, k.resolution.answer = .error (.rejected x)
  | .failed => ∃ reason, k.resolution.answer = .error (.failed reason)
  | .suppressed => k.resolution.answer = .ok none ∧ k.context.marker = true ∧
      ∃ r m, k.Candidate r m ∧ m ∉ k.chain.verifier.registry.names
  | .noMfa => k.resolution.answer = .ok none ∧ ∀ r m, ¬ k.Candidate r m

/-- What an event of an outcome says about the method. -/
def Details (k : Call) (e : AuditEvent) : Outcome → Prop
  | .verified => ∃ q, k.resolution.answer = .ok (some q) ∧ e.method = some q.method.name ∧
      e.rank = some q.method.rank ∧ e.source = some q.source.text ∧ e.error = none
  | .rejected | .suppressed => ∃ r m, k.Candidate r m ∧ e.method = some m ∧ e.rank = none ∧
      e.source = some r.source.text ∧ e.error = none
  | .noMfa => e.method = none ∧ e.rank = none ∧ e.source = none ∧ e.error = none
  | .failed => e.rank = none ∧
      ∃ source error, e.source = some source ∧ e.error = some error ∧ error ≠ []

/-- The event says for whom the call was made and how it ended. -/
structure Tells (k : Call) (e : AuditEvent) : Prop where
  requestId : e.requestId = k.context.requestId
  serviceId : e.serviceId = k.target.map TargetService.id
  principalId : e.principalId = k.user.map fun a => a.principal.id
  outcome : ∀ o, e.outcome = o ↔ k.EndsAs o
  details : k.Details e e.outcome

/-- A call does not end in two ways. -/
theorem endsAs_unique (h : k.EndsAs o) (h' : k.EndsAs o') : o = o' := by
  cases o <;> cases o' <;> grind [EndsAs]

theorem tells_of_endsAs (hrequest : e.requestId = k.context.requestId)
    (hservice : e.serviceId = k.target.map TargetService.id)
    (hprincipal : e.principalId = k.user.map fun a => a.principal.id) (h : k.EndsAs e.outcome)
    (hdetails : k.Details e e.outcome) : k.Tells e where
  requestId := hrequest
  serviceId := hservice
  principalId := hprincipal
  outcome _ := ⟨fun ho => ho ▸ h, endsAs_unique h⟩
  details := hdetails

/-- A call of a chain whose verifier goes by its registry is told by an event. -/
theorem exists_tells (k : Call) (real : k.chain.verifier.acceptance = .registered) :
    ∃ e, k.resolution.event = some e ∧ k.Tells e := by
  obtain ⟨chain, user, target, context⟩ := k
  obtain ⟨ending, hends⟩ := chain.exists_ends user context target
  have hending := Chain.ending_of_ends hends
  have hanswer := congrArg Ending.answer hending
  have hevent := congrArg Ending.event hending
  cases hends with
  | noTarget =>
    have hnone : ∀ r m, ¬ Candidate ⟨chain, user, none, context⟩ r m := by
      rintro r m ⟨t, ht, -⟩
      cases ht
    exact ⟨_, hevent, tells_of_endsAs rfl rfl rfl ⟨hanswer, hnone⟩ ⟨rfl, rfl, rfl, rfl⟩⟩
  | @noCandidate t pass =>
    have hnone : ∀ r m, ¬ Candidate ⟨chain, user, some t, context⟩ r m := by
      rintro r m ⟨t', ht, hsettles, -⟩
      cases ht
      exact hsettles.not_passes (pass r hsettles.mem)
    exact ⟨_, hevent, tells_of_endsAs rfl rfl rfl ⟨hanswer, hnone⟩ ⟨rfl, rfl, rfl, rfl⟩⟩
  | @failed t r f =>
    exact ⟨_, hevent, tells_of_endsAs rfl rfl rfl ⟨_, hanswer⟩
      ⟨rfl, _, _, rfl, rfl, f.describe_ne_nil⟩⟩
  | @rejected t r m proposed =>
    have hcandidate : Candidate ⟨chain, user, some t, context⟩ r m := ⟨t, rfl, proposed⟩
    exact ⟨_, hevent, tells_of_endsAs rfl rfl rfl ⟨_, hanswer⟩
      ⟨r, m, hcandidate, rfl, rfl, rfl, rfl⟩⟩
  | @suppressed t r m proposed _ unsupported marked =>
    have hcandidate : Candidate ⟨chain, user, some t, context⟩ r m := ⟨t, rfl, proposed⟩
    exact ⟨_, hevent, tells_of_endsAs rfl rfl rfl ⟨hanswer, marked, r, m, hcandidate, unsupported⟩
      ⟨r, m, hcandidate, rfl, rfl, rfl, rfl⟩⟩
  | required =>
    exact ⟨_, hevent, tells_of_endsAs rfl rfl rfl ⟨_, hanswer⟩
      ⟨_, hanswer, rfl, rfl, rfl, rfl⟩⟩
  | again =>
    exact ⟨_, hevent, tells_of_endsAs rfl rfl rfl ⟨_, hanswer⟩
      ⟨_, hanswer, rfl, rfl, rfl, rfl⟩⟩
  | conflicting =>
    exact ⟨_, hevent, tells_of_endsAs rfl rfl rfl ⟨_, hanswer⟩
      ⟨rfl, _, _, rfl, rfl, Chain.conflictReason_ne_nil _ _ _⟩⟩
  | unregistered _ lax =>
    rw [lax] at real
    cases real

/-- Among the records of the call one tells the event. Any other of that name was written by a
resolver, so there is no other if the resolvers leave the name to the chain. -/
structure ToldBy (k : Call) (e : AuditEvent) (records : List LogRecord) : Prop where
  last : ∃ others, outcomeRecords records = others ++ [Chain.outcomeRecord e] ∧
    ∀ x ∈ others, ∃ t, k.target = some t ∧ ∃ r ∈ k.chain.resolvers,
      x ∈ (r.propose k.user t k.context).records
  once : (∀ r ∈ k.chain.resolvers, r.LeavesOutcome) →
    outcomeRecords records = [Chain.outcomeRecord e]

theorem toldBy_of_event (h : k.resolution.event = some e) : k.ToldBy e k.resolution.records :=
  ⟨Chain.resolve_told h, Chain.resolve_told_once h⟩

/-! ## Calls in sequence -/

variable {ks : List Call} {es : List AuditEvent}

theorem events_tell (h : ∀ k ∈ ks, k.chain.verifier.acceptance = .registered) :
    List.Forall₂ Tells ks (events ks) := by
  induction ks with
  | nil => exact .nil
  | cons k rest ih =>
    obtain ⟨hk, hrest⟩ := List.forall_mem_cons.mp h
    obtain ⟨e, hevent, htells⟩ := k.exists_tells hk
    rw [events, List.flatMap_cons, hevent]
    exact .cons htells (ih hrest)

/-- The outcomes of events that tell of calls are the ways in which these ended. -/
theorem outcome_iff_of_tell (h : List.Forall₂ Tells ks es) (i : Nat) (o : Outcome) :
    es[i]?.map AuditEvent.outcome = some o ↔ ∃ k, ks[i]? = some k ∧ k.EndsAs o := by
  induction h generalizing i with
  | nil => simp
  | cons htells _ ih =>
    cases i with
    | zero => simpa using htells.outcome o
    | succ i => simpa using ih i

end Call

namespace Session

variable {s : Session} {st : SessionStep} {k : Call}

theorem takes_of_working (h : s.sink = some .working) : s.takes = true := by
  simp [takes, h, AuditSink.working]

theorem audit_of_working (h : s.sink = some .working) (steps : List SessionStep) :
    s.audit steps = Call.events (s.calls steps) :=
  audit_eq_of_takes fun _ hs => takes_of_working (hs.trans h)

theorem resolve_records_of_working (h : s.sink = some .working) (n m : Text)
    (a : Option Authentication) (c : RequestContext) (t : Option TargetService) :
    (s.resolve n m a c t).2.records = (s.chain.resolve a t c).records := by
  unfold resolve
  dsimp only
  rw [h]
  cases (s.chain.resolve a t c).event <;> simp [Delivery.of, AuditSink.working]

theorem step_records_of_working (h : s.sink = some .working) (hcall : s.call? st = some k) :
    (s.step st).2.records = k.resolution.records := by
  obtain ⟨n, m, -, -, hchain, hstep⟩ := step_of_call hcall
  rw [hstep, resolve_records_of_working h, Call.resolution, hchain]

theorem calls_registered (real : ∀ store, (s.assemble store).verifier.acceptance = .registered)
    (steps : List SessionStep) :
    ∀ k ∈ s.calls steps, k.chain.verifier.acceptance = .registered := by
  induction steps generalizing s with
  | nil => exact nofun
  | cons st rest ih =>
    intro k hk
    rcases List.mem_append.mp hk with hk | hk
    · obtain ⟨n, m, -, -, hchain, -⟩ := step_of_call (Option.mem_toList.mp hk)
      rw [hchain]
      exact real _
    · exact ih (s := (s.step st).1) (by rwa [step_assemble]) k hk

/-- **The audit log tells the truth.** With a sink that works and a verifier that goes by its
registry, a step that makes no call of the chain is not audited, and one that does is by just one
event, which tells for whom the call was made and how it ended, along with one record. So the
outcomes in the log of a run are the ways in which its calls ended, one by one. -/
theorem audit_tells (s : Session) (working : s.sink = some .working)
    (real : ∀ store, (s.assemble store).verifier.acceptance = .registered) :
    (∀ st, s.call? st = none → (s.step st).2.audit = []) ∧
      (∀ st k, s.call? st = some k → (s.step st).2.answer = k.answer ∧
        ∃ e, (s.step st).2.audit = [e] ∧ k.Tells e ∧ k.ToldBy e (s.step st).2.records) ∧
      ∀ steps, List.Forall₂ Call.Tells (s.calls steps) (s.audit steps) ∧
        ∀ (i : Nat) o, (s.audit steps)[i]?.map AuditEvent.outcome = some o ↔
          ∃ k, (s.calls steps)[i]? = some k ∧ k.EndsAs o := by
  refine ⟨fun st => step_audit_of_no_call, fun st k hcall => ?_, fun steps => ?_⟩
  · obtain ⟨n, m, -, -, hchain, -⟩ := step_of_call hcall
    obtain ⟨e, hevent, htells⟩ := k.exists_tells (hchain ▸ real _)
    refine ⟨step_answer_of_call hcall, e, ?_, htells, ?_⟩
    · rw [step_audit, if_pos (takes_of_working working), hcall]
      simp [Call.events, hevent]
    · rw [step_records_of_working working hcall]
      exact Call.toldBy_of_event hevent
  · have htell : List.Forall₂ Call.Tells (s.calls steps) (s.audit steps) := by
      rw [audit_of_working working]
      exact Call.events_tell (calls_registered real steps)
    exact ⟨htell, Call.outcome_iff_of_tell htell⟩

/-- A client asks twice for an unknown method. The log tells the second call, which returns
nothing, from a call without a candidate; and the chain of a configuration writes one record for
each call. -/
theorem audit_tells_suppressed :
    let registry : Registry := ⟨[⟨"fingerprint", 2⟩], by decide⟩
    let config : Config := { methods := registry.methods }
    let services : ServiceDirectory := .ofList []
    let s : Session :=
      { assemble := fun store => ⟨config.resolvers registry services store,
          { registry := registry }⟩
        services := services
        store := .entries []
        sink := some .working }
    let steps : List SessionStep :=
      [.request "a" ⟨[("authn_method", .str "bogus")], [], "r1", false⟩,
        .target "u" { id := "app" }, .resolve "a" "u" none, .resolve "a" "u" none]
    (∃ k, (s.calls steps)[1]? = some k ∧ k.EndsAs .suppressed) ∧
      ∀ st k, s.call? st = some k → ∃ e, k.Tells e ∧
        outcomeRecords (s.step st).2.records = [Chain.outcomeRecord e] := by
  intro registry config services s steps
  obtain ⟨-, hcalls, hruns⟩ := audit_tells s rfl fun _ => rfl
  refine ⟨((hruns steps).2 1 .suppressed).mp rfl, fun st k hcall => ?_⟩
  obtain ⟨-, e, -, htells, htold⟩ := hcalls st k hcall
  obtain ⟨n, m, -, -, hchain, -⟩ := step_of_call hcall
  refine ⟨e, htells, htold.once ?_⟩
  rw [hchain]
  exact config.resolvers_leaveOutcome registry services s.store.store?

end Session

end StepUp
