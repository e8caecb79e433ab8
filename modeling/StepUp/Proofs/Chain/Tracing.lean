import StepUp.Audit.Sink
import StepUp.Proofs.Chain.Telling
import StepUp.Proofs.Config.Policy

/-!
# Records and the request they belong to

A record tells its event and its message, and names the request it belongs to where its writer
knows it (`LogRecord.Traces`). Resolvers, verifier, chain and sink know the request and name it.
What evaluates a role rule does not: it is not handed the request, and a rule that cannot be used
(`RoleRules.Unusable`) is told by a record that names none (`RoleRules.anonymous_of_mem_evaluate`).

The chain that a configuration describes puts a user to the rule of a definition where nothing
before the role resolver settles the matter (`Config.ConsultsRule`). What a resolution records
names the request, or was recorded about the rule (`Config.traces_or_mem_evaluate`).
-/

namespace StepUp

namespace LogRecord

variable {x : LogRecord} {id : Text}

def field? (x : LogRecord) (name : Text) : Option Json := x.fields.lookup name

/-- The record tells an event and a message. -/
def Structured (x : LogRecord) : Prop :=
  (∃ event, x.field? "event" = some (.str event)) ∧
    ∃ message, x.field? "message" = some (.str message)

/-- The record names the request. -/
def Traces (x : LogRecord) (id : Text) : Prop := x.field? "request_id" = some (.str id)

/-- The record names no request. -/
def Anonymous (x : LogRecord) : Prop := x.field? "request_id" = none

theorem structured (x : LogRecord) : x.Structured := ⟨⟨x.event, rfl⟩, ⟨x.message, rfl⟩⟩

theorem Anonymous.not_traces (h : x.Anonymous) : ¬ x.Traces id := by
  intro htraces
  cases h.symm.trans htraces

/-- Where the details say nothing about a request, a record names the one that it carries. -/
theorem field?_request (h : x.details.lookup ("request_id" : Text) = none) :
    x.field? "request_id" = x.requestId.map .str := by
  rw [field?, fields, List.lookup_append, List.lookup_append, h]
  cases x.requestId <;> rfl

theorem traces_of_carried (h : x.details.lookup ("request_id" : Text) = none)
    (hid : x.requestId = some id) : x.Traces id := by
  rw [Traces, field?_request h, hid, Option.map_some]

theorem anonymous_of_uncarried (h : x.details = []) (hid : x.requestId = none) : x.Anonymous := by
  rw [Anonymous, field?_request (h ▸ rfl), hid, Option.map_none]

end LogRecord

/-- All records name the request. -/
def Traced (id : Text) (records : List LogRecord) : Prop := ∀ x ∈ records, x.Traces id

namespace Traced

variable {id : Text} {xs ys : List LogRecord} {x : LogRecord}

theorem nil : Traced id [] := fun _ hx => absurd hx List.not_mem_nil

theorem cons (hx : x.Traces id) (hxs : Traced id xs) : Traced id (x :: xs) :=
  List.forall_mem_cons.mpr ⟨hx, hxs⟩

theorem singleton (hx : x.Traces id) : Traced id [x] := cons hx nil

theorem append (hxs : Traced id xs) (hys : Traced id ys) : Traced id (xs ++ ys) :=
  List.forall_mem_append.mpr ⟨hxs, hys⟩

end Traced

/-! ## The records of the resolvers -/

namespace Resolver

variable {a : Option Authentication} {t : TargetService} {c : RequestContext} {x : LogRecord}

/-- What the resolver records names the request. -/
def TracesRequest (r : Resolver) : Prop := ∀ a t c, Traced c.requestId (r.propose a t c).records

theorem debug_traces (c : RequestContext) (event message : Text) :
    (debug c event message).Traces c.requestId := LogRecord.traces_of_carried rfl rfl

theorem info_traces (c : RequestContext) (event message : Text) :
    (info c event message).Traces c.requestId := LogRecord.traces_of_carried rfl rfl

theorem requestParameter_traces (parameter : Text) :
    (requestParameter parameter).TracesRequest := by
  intro a t c
  unfold requestParameter
  dsimp only
  split
  · exact .nil
  · exact .singleton (debug_traces _ _ _)

theorem ofDefinition_traced (property : Text) (default : Option Text) (d : ServiceDefinition)
    (c : RequestContext) : Traced c.requestId (ofDefinition property default d c).records := by
  unfold ofDefinition
  split
  · exact .singleton (debug_traces _ _ _)
  · split
    · exact .nil
    · split
      · exact .nil
      · exact .singleton (debug_traces _ _ _)

theorem registeredService_traces (services : ServiceDirectory) (property : Text)
    (default : Option Text) : (registeredService services property default).TracesRequest := by
  intro a t c
  unfold registeredService
  dsimp only
  split
  · exact .nil
  · exact .singleton (debug_traces _ _ _)
  · exact ofDefinition_traced _ _ _ _

theorem principalAttribute_traces (registry : Registry) (name : Text) :
    (principalAttribute registry name).TracesRequest := by
  intro a t c
  unfold principalAttribute
  dsimp only
  split
  · exact .nil
  · split
    · exact .nil
    · split
      · exact .singleton (debug_traces _ _ _)
      · exact .cons (debug_traces _ _ _) (.singleton (info_traces _ _ _))

end Resolver

/-! ## The records about a role rule -/

namespace RoleRules

variable {rules : RoleRules} {d : ServiceDefinition} {u : Authentication} {x : LogRecord}

/-- The definition states no rule, or one with a pattern that is malformed. -/
def Unusable (rules : RoleRules) (d : ServiceDefinition) : Prop :=
  ∀ rule, rules.States d rule →
    ∃ complaint position, Pattern.compile rule.pattern = .error (.malformed complaint position)

/-- The events of the records about a rule that cannot be used. -/
def complaints : List Text :=
  ["mfa_role_rule_incomplete", "mfa_role_method_unsupported", "mfa_role_pattern_invalid"]

/-- What is recorded about a rule tells that it cannot be used and names no request. -/
theorem anonymous_of_mem_evaluate (h : x ∈ (rules.evaluate u d).records) :
    x.Anonymous ∧ x.event ∈ complaints := by
  have hincomplete : ("mfa_role_rule_incomplete" : Text) ∈ complaints := by decide
  have hunsupported : ("mfa_role_method_unsupported" : Text) ∈ complaints := by decide
  have hinvalid : ("mfa_role_pattern_invalid" : Text) ∈ complaints := by decide
  unfold evaluate at h
  split at h
  · split at h
    · cases List.mem_singleton.mp h
      exact ⟨LogRecord.anonymous_of_uncarried rfl rfl, hunsupported⟩
    · split at h
      · cases h
      · split at h
        · cases h
        · cases List.mem_singleton.mp h
          exact ⟨LogRecord.anonymous_of_uncarried rfl rfl, hinvalid⟩
  · cases List.mem_singleton.mp h
    exact ⟨LogRecord.anonymous_of_uncarried rfl rfl, hincomplete⟩

theorem evaluate_records_of_stated {rule : RoleRule} (h : rules.States d rule) :
    (rules.evaluate u d).records ≠ [] ↔
      ∃ complaint position,
        Pattern.compile rule.pattern = .error (.malformed complaint position) := by
  obtain ⟨h₁, h₂, h₃, h₄⟩ := states_iff.mp h
  simp only [evaluate, h₁, h₂, h₃, h₄]
  cases Pattern.compile rule.pattern with
  | ok p => simp
  | error r => cases r <;> simp [hostFailure?]

/-- Something is recorded about a rule just if it cannot be used. -/
theorem evaluate_records_ne_nil_iff : (rules.evaluate u d).records ≠ [] ↔ rules.Unusable d := by
  by_cases hstated : ∃ rule, rules.States d rule
  · obtain ⟨rule, hstates⟩ := hstated
    rw [evaluate_records_of_stated hstates]
    refine ⟨fun h other hother => ?_, fun h => h rule hstates⟩
    have hsame := hother.pattern.symm.trans hstates.pattern
    rwa [Option.some_inj.mp hsame]
  · have hnone := not_exists.mp hstated
    refine ⟨fun _ rule h => absurd h (hnone rule), fun _ => ?_⟩
    obtain ⟨x, hevaluate⟩ := evaluate_of_unstated (a := u) hnone
    rw [hevaluate]
    exact List.cons_ne_nil x []

end RoleRules

namespace Resolver

variable {a : Option Authentication} {t : TargetService} {c : RequestContext} {x : LogRecord}
  {rules : RoleRules} {services : ServiceDirectory} {store : AuthenticationStore}
  {selection : RoleSelection} {u : Authentication} {d : ServiceDefinition}

/-- The user behind the ticket of the flow is put to the rule of the definition that governs the
target. -/
structure PutsToRule (services : ServiceDirectory) (store : AuthenticationStore)
    (t : TargetService) (c : RequestContext) (u : Authentication) (d : ServiceDefinition) :
    Prop where
  governing : services.find t.id = .ok (some d)
  active : ∃ ticket, c.ticket? = some ticket ∧ store.find ticket = .ok (some u)

/-- To what is recorded about the rule of a definition the resolver adds records that name the
request. -/
theorem ofFinding_records (selection : RoleSelection) (d : ServiceDefinition)
    (c : RequestContext) (finding : RoleFinding) :
    ∃ own, (ofFinding selection d c finding).records = finding.records ++ own ∧
      Traced c.requestId own := by
  unfold ofFinding
  split
  · exact ⟨[], (List.append_nil _).symm, .nil⟩
  · split
    · exact ⟨_, rfl, .singleton (debug_traces _ _ _)⟩
    · exact ⟨_, rfl, .singleton (info_traces _ _ _)⟩

theorem mfaRole_traces_or_mem_evaluate
    (h : x ∈ ((mfaRole rules services store selection).propose a t c).records) :
    x.Traces c.requestId ∨
      ∃ u d, PutsToRule services store t c u d ∧ x ∈ (rules.evaluate u d).records := by
  unfold mfaRole at h
  dsimp only at h
  split at h
  · exact Or.inl (Traced.singleton (debug_traces _ _ _) x h)
  · next ticket hticket =>
    split at h
    · cases h
    · exact Or.inl (Traced.singleton (debug_traces _ _ _) x h)
    · next u hu =>
      split at h
      · cases h
      · cases h
      · next d hd =>
        obtain ⟨own, hrecords, hown⟩ := ofFinding_records selection d c (rules.evaluate u d)
        rw [hrecords] at h
        rcases List.mem_append.mp h with h | h
        · exact Or.inr ⟨u, d, ⟨hd, ticket, hticket, hu⟩, h⟩
        · exact Or.inl (hown x h)

theorem mem_mfaRole_of_mem_evaluate (h : PutsToRule services store t c u d)
    (hx : x ∈ (rules.evaluate u d).records) :
    x ∈ ((mfaRole rules services store selection).propose a t c).records := by
  obtain ⟨own, hrecords, -⟩ := ofFinding_records selection d c (rules.evaluate u d)
  rw [mfaRole_of_active h.active h.governing, hrecords]
  exact List.mem_append_left _ hx

end Resolver

/-! ## The records of a chain -/

theorem Verifier.verify_traced (v : Verifier) (method : Option Text) (t : TargetService)
    (c : RequestContext) : Traced c.requestId (v.verify method t c).records := by
  have hunsupported (r : Rejection) : (unsupportedRecord r c).Traces c.requestId :=
    LogRecord.traces_of_carried rfl rfl
  have hsuppressed (r : Rejection) : (suppressedRecord r c).Traces c.requestId :=
    LogRecord.traces_of_carried rfl rfl
  unfold verify
  split
  · exact .nil
  · cases hmarked : c.marker with
    | false =>
      simp only [RequestContext.mark, hmarked]
      exact .singleton (hunsupported _)
    | true =>
      simp only [RequestContext.mark, hmarked]
      exact .cons (hunsupported _) (.singleton (hsuppressed _))

theorem Delivery.of_traced (sink : Option AuditSink) (n : Nat) {e : Option AuditEvent} {id : Text}
    (h : ∀ e' ∈ e, e'.requestId = id) : Traced id (Delivery.of sink n e).records := by
  unfold Delivery.of
  split
  · next e' =>
    split
    · exact .nil
    · refine .singleton (LogRecord.traces_of_carried rfl ?_)
      exact congrArg some (h e' rfl)
  · exact .nil

namespace Chain

variable {chain : Chain} {a : Option Authentication} {t : TargetService} {c : RequestContext}
  {target : Option TargetService} {x : LogRecord} {r : Resolver} {records : List LogRecord}

/-- What the search records is recorded by the resolver in front, or by those behind it if that
one passes. -/
theorem mem_find_cons_iff {rest : List Resolver} : x ∈ (find a t c (r :: rest)).1 ↔
    x ∈ (r.propose a t c).records ∨ (r.Passes a t c ∧ x ∈ (find a t c rest).1) := by
  by_cases hr : r.Passes a t c
  · rw [find_cons_of_passes hr, List.mem_append]
    simp [hr]
  · rw [find_cons_records hr]
    simp [hr]

/-- A resolution adds records to some, and these name the request; so does its event. -/
structure Adds (records : List LogRecord) (id : Text) (x : Resolution) : Prop where
  records : ∃ own, x.records = records ++ own ∧ Traced id own
  event : ∀ e ∈ x.event, e.requestId = id

theorem told_adds {e : AuditEvent} {id : Text} (h : e.requestId = id)
    (answer : Except ResolutionFault (Option Requirement)) (c : RequestContext)
    (target : Option TargetService) (records : List LogRecord) :
    Adds records id (told e answer c target records) := by
  refine ⟨⟨[outcomeRecord e], rfl, .singleton (LogRecord.traces_of_carried rfl ?_)⟩, ?_⟩
  · exact congrArg some h
  · intro e' he
    cases he
    exact h

theorem require_adds {e : Outcome → AuditEvent} {id : Text} (h : ∀ o, (e o).requestId = id)
    (q : Requirement) (c : RequestContext) (t : TargetService) (records : List LogRecord) :
    Adds records id (require e q c t records) := by
  unfold require
  dsimp only
  split
  · refine told_adds ?_ _ _ _ _
    exact h .verified
  · split
    · refine told_adds ?_ _ _ _ _
      exact h .verified
    · refine told_adds ?_ _ _ _ _
      exact h .failed

theorem Adds.of_append {own : List LogRecord} {id : Text} {x : Resolution}
    (hown : Traced id own) (h : Adds (records ++ own) id x) : Adds records id x := by
  obtain ⟨rest, hrecords, hrest⟩ := h.records
  refine ⟨⟨own ++ rest, ?_, hown.append hrest⟩, h.event⟩
  rw [hrecords, List.append_assoc]

theorem judge_adds {e : Outcome → AuditEvent} (h : ∀ o, (e o).requestId = c.requestId)
    (method : Text) (source : Source) (t : TargetService) (records : List LogRecord) :
    Adds records c.requestId (chain.judge e method source c t records) := by
  refine .of_append (chain.verifier.verify_traced (some method) t c) ?_
  unfold judge
  dsimp only
  split
  · refine told_adds ?_ _ _ _ _
    exact h .rejected
  · refine told_adds ?_ _ _ _ _
    exact h .suppressed
  · split
    · exact ⟨⟨[], (List.append_nil _).symm, .nil⟩, by rintro _ ⟨⟩⟩
    · exact require_adds h _ _ _ _

/-- A resolution adds records that name the request to those of the search, and its event names
the request as well. -/
theorem resolve_adds (chain : Chain) (a : Option Authentication) (t : TargetService)
    (c : RequestContext) :
    Adds (find a t c chain.resolvers).1 c.requestId (chain.resolve a (some t) c) := by
  unfold resolve
  dsimp only
  split
  · next hfind =>
    rw [hfind]
    refine told_adds ?_ _ _ _ _
    rfl
  · next hfind =>
    rw [hfind]
    refine told_adds ?_ _ _ _ _
    rfl
  · next hfind =>
    rw [hfind]
    exact judge_adds (fun _ => rfl) _ _ _ _

theorem resolve_none_adds (chain : Chain) (a : Option Authentication) (c : RequestContext) :
    Adds [] c.requestId (chain.resolve a none c) := by
  refine told_adds ?_ _ _ _ _
  rfl

end Chain

/-! ## The standard chain -/

namespace Config

variable {c : Config} {registry : Registry} {services : ServiceDirectory}
  {store : Option AuthenticationStore} {a : Option Authentication} {t : TargetService}
  {ctx : RequestContext} {x : LogRecord} {u : Authentication} {d : ServiceDefinition}

/-- A resolution puts the user behind the ticket of the flow to the rule of the definition that
governs the target: there is a store, the request does not ask for a method, and the definition
does not demand one. -/
structure ConsultsRule (c : Config) (services : ServiceDirectory)
    (store : Option AuthenticationStore) (t : TargetService) (ctx : RequestContext)
    (u : Authentication) (d : ServiceDefinition) : Prop where
  unasked : ∀ m, ¬ ctx.Asks c.methodParameter m
  undemanded : ∀ m, ¬ d.Demands c.serviceMethodProperty c.defaultMethod m
  put : ∃ s, store = some s ∧ Resolver.PutsToRule services s t ctx u d

theorem requestParameter_passes_iff :
    (Resolver.requestParameter c.methodParameter).Passes a t ctx ↔
      ∀ m, ¬ ctx.Asks c.methodParameter m := by
  refine ⟨fun h m hasks => ?_, requestParameter_passes⟩
  have hout := Resolver.requestParameter_of_asked (a := a) (t := t) hasks
  exact Resolver.not_passes_of_proposes hout hasks.nonblank h

theorem registeredService_passes_iff (hd : services.find t.id = .ok (some d)) :
    (Resolver.registeredService services c.serviceMethodProperty c.defaultMethod).Passes a t ctx ↔
      ∀ m, ¬ d.Demands c.serviceMethodProperty c.defaultMethod m := by
  have hout : ((Resolver.registeredService services c.serviceMethodProperty
      c.defaultMethod).propose a t ctx).outcome =
        (Resolver.ofDefinition c.serviceMethodProperty (Resolver.normalizedDefault c.defaultMethod)
          d ctx).outcome := Resolver.registeredService_of_governed hd
  constructor
  · intro h m hdemands
    rw [Resolver.ofDefinition_outcome_iff.mpr hdemands] at hout
    exact Resolver.not_passes_of_proposes hout hdemands.nonblank h
  · intro h
    obtain ⟨p, hp⟩ := Resolver.ofDefinition_outcome_ok c.serviceMethodProperty
      (Resolver.normalizedDefault c.defaultMethod) d ctx
    cases p with
    | none => exact Resolver.passes_of_abstains (hout.trans hp)
    | some m => exact absurd (Resolver.ofDefinition_outcome_iff.mp hp) (h m)

/-- What the standard resolvers record names the request or is about a rule that was consulted. -/
theorem traces_or_mem_evaluate
    (h : x ∈ (Chain.find a t ctx (c.resolvers registry services store)).1) :
    x.Traces ctx.requestId ∨ ∃ u d, c.ConsultsRule services store t ctx u d ∧
      x ∈ (RoleRules.evaluate ⟨registry, c.serviceMethodProperty⟩ u d).records := by
  have hattribute : ∀ q ∈ c.attributeStep registry, q.TracesRequest := by
    unfold attributeStep
    split
    · intro q hq
      cases List.mem_singleton.mp hq
      exact Resolver.principalAttribute_traces _ _
    · exact fun q hq => absurd hq List.not_mem_nil
  have hlast : ∀ x ∈ (Chain.find a t ctx (c.attributeStep registry)).1,
      x.Traces ctx.requestId := by
    intro x hx
    obtain ⟨q, hq, hx⟩ := Chain.exists_of_mem_find hx
    exact hattribute q hq a t ctx x hx
  rw [resolvers_eq, Chain.mem_find_cons_iff, Chain.mem_find_cons_iff] at h
  rcases h with h | ⟨hparameter, h | ⟨hservice, h⟩⟩
  · exact Or.inl (Resolver.requestParameter_traces _ a t ctx x h)
  · exact Or.inl (Resolver.registeredService_traces _ _ _ a t ctx x h)
  · cases store with
    | none => exact Or.inl (hlast x h)
    | some s =>
      rw [roleStep, List.singleton_append, Chain.mem_find_cons_iff] at h
      rcases h with h | ⟨-, h⟩
      · rcases Resolver.mfaRole_traces_or_mem_evaluate h with h | ⟨u, d, hput, h⟩
        · exact Or.inl h
        · refine Or.inr ⟨u, d, ⟨requestParameter_passes_iff.mp hparameter, ?_, s, rfl, hput⟩, h⟩
          exact (registeredService_passes_iff hput.governing).mp hservice
      · exact Or.inl (hlast x h)

/-- What is recorded about a rule that is consulted is among the records of the resolvers. -/
theorem mem_find_of_mem_evaluate (h : c.ConsultsRule services store t ctx u d)
    (hx : x ∈ (RoleRules.evaluate ⟨registry, c.serviceMethodProperty⟩ u d).records) :
    x ∈ (Chain.find a t ctx (c.resolvers registry services store)).1 := by
  obtain ⟨s, rfl, hput⟩ := h.put
  rw [resolvers_eq, Chain.mem_find_cons_iff, Chain.mem_find_cons_iff, roleStep,
    List.singleton_append, Chain.mem_find_cons_iff]
  refine Or.inr ⟨requestParameter_passes h.unasked, Or.inr ⟨?_, Or.inl ?_⟩⟩
  · exact (registeredService_passes_iff hput.governing).mpr h.undemanded
  · exact Resolver.mem_mfaRole_of_mem_evaluate hput hx

end Config

end StepUp
