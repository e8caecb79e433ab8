import StepUp.Proofs.Chain.Warnings
import StepUp.Proofs.Session.Run

/-!
# Warnings point at malformed patterns

Whoever watches the warnings only should see the rules that need repair, and nothing else. In a
session over the chain of a valid configuration, with services and authentications held in memory
and an audit log that works, a resolution warns just if the request gets as far as a rule with a
malformed pattern (`Config.MeetsMalformed`), and then it warns once, of that rule
(`Session.warned_iff_malformed`).
-/

namespace StepUp

namespace Config

variable {c : Config} {definitions : List ServiceDefinition}
  {store : Option (List (Text × Authentication))} {a : Option Authentication}
  {t : TargetService} {ctx : RequestContext} {d : ServiceDefinition} {rule : RoleRule}
  {r : Pattern.Refusal}

/-- The request gets as far as a rule with a malformed pattern: it does not ask for a method, the
ticket of its flow is that of a user, and the definition that governs the target states the rule,
for a configured method. -/
structure MeetsMalformed (c : Config) (definitions : List ServiceDefinition)
    (store : Option (List (Text × Authentication))) (t : TargetService) (ctx : RequestContext)
    (d : ServiceDefinition) (rule : RoleRule) (r : Pattern.Refusal) : Prop where
  unasked : ∀ m, ¬ ctx.Asks c.methodParameter m
  governing : ServiceDirectory.Governing definitions t.id d
  applies : ∃ entries u, store = some entries ∧ c.RuleApplies definitions entries t ctx rule u
  refused : Pattern.compile rule.pattern = .error r
  malformed : r.Malformed

namespace Valid

variable (h : c.Valid)

include h

/-- The request consults the rule, which the definition states. -/
theorem consults_of_meets (hmeets : c.MeetsMalformed definitions store t ctx d rule r) :
    RoleRules.States ⟨h.registry, c.serviceMethodProperty⟩ d rule ∧
      ∃ u, c.ConsultsRule (.ofList definitions) (store.map .ofList) t ctx u d := by
  obtain ⟨entries, u, rfl, happlies⟩ := hmeets.applies
  have hfind := ServiceDirectory.find_ofList_iff.mpr hmeets.governing
  have happlies' := h.applies_iff.mpr happlies
  obtain ⟨d', hd', hstates⟩ := happlies'.stated
  cases hfind.symm.trans hd'
  refine ⟨hstates, u, hmeets.unasked, fun m hdemands => ?_, _, rfl, hfind, happlies'.active⟩
  exact happlies.undemanded ⟨d, hmeets.governing, hdemands⟩

/-- A request that consults the rule of a definition whose pattern is malformed gets as far as
that. -/
theorem meets_of_broken {u : Authentication}
    (hconsults : c.ConsultsRule (.ofList definitions) (store.map .ofList) t ctx u d)
    (hbroken : RoleRules.Broken ⟨h.registry, c.serviceMethodProperty⟩ d) :
    ∃ rule r, c.MeetsMalformed definitions store t ctx d rule r := by
  obtain ⟨rule, r, hstates, hrefused, hmalformed⟩ := hbroken
  obtain ⟨s, hs, hput⟩ := hconsults.put
  obtain ⟨entries, rfl, rfl⟩ := Option.map_eq_some_iff.mp hs
  refine ⟨rule, r, hconsults.unasked, ServiceDirectory.find_ofList_iff.mp hput.governing, ?_,
    hrefused, hmalformed⟩
  exact ⟨entries, u, rfl, h.applies_iff.mp ⟨⟨d, hput.governing, hstates⟩, hput.active⟩⟩

/-- A resolution that gets as far as a malformed pattern warns of it ... -/
theorem resolve_warnings_of_meets (hmeets : c.MeetsMalformed definitions store t ctx d rule r) :
    warnings ((h.chain (.ofList definitions) (store.map .ofList)).resolve a (some t) ctx).records =
      [RoleRules.warning d rule r] := by
  obtain ⟨hstates, u, hconsults⟩ := h.consults_of_meets hmeets
  rw [Chain.resolve_warnings, chain, find_warnings_of_consulted hconsults,
    RoleRules.evaluate_of_malformed hstates hmeets.refused hmeets.malformed]
  rfl

/-- ... and no other one warns of anything. -/
theorem resolve_warnings_of_not_meets
    (hnone : ∀ d rule r, ¬ c.MeetsMalformed definitions store t ctx d rule r) :
    warnings ((h.chain (.ofList definitions) (store.map .ofList)).resolve a (some t) ctx).records =
      [] := by
  rw [Chain.resolve_warnings, chain]
  by_cases hconsulted : ∃ u d, c.ConsultsRule (.ofList definitions) (store.map .ofList) t ctx u d
  · obtain ⟨u, d, hconsults⟩ := hconsulted
    rw [find_warnings_of_consulted hconsults]
    refine RoleRules.warnings_of_unbroken fun hbroken => ?_
    obtain ⟨rule, r, hmeets⟩ := h.meets_of_broken hconsults hbroken
    exact hnone d rule r hmeets
  · refine find_warnings_of_unconsulted fun u d hconsults => ?_
    exact hconsulted ⟨u, d, hconsults⟩

end Valid

end Config

/-- The authentications that are held in memory. -/
def SessionStore.held? : SessionStore → Option (List (Text × Authentication))
  | .entries list => some list
  | .absent | .failing _ => none

theorem SessionStore.store?_of_memory {store : SessionStore} (h : ∀ f, store ≠ .failing f) :
    store.store? = store.held?.map .ofList := by
  cases store with
  | absent | entries => rfl
  | failing f => exact absurd rfl (h f)

namespace Session

variable {c : Config} {definitions : List ServiceDefinition} {s : Session} {n m : Text}
  {p : Option Principal} {d : ServiceDefinition} {rule : RoleRule} {r : Pattern.Refusal}

/-- The context and the target of the names are such that a resolution gets as far as a rule with a
malformed pattern. -/
def MeetsMalformed (c : Config) (definitions : List ServiceDefinition) (s : Session) (n m : Text)
    (d : ServiceDefinition) (rule : RoleRule) (r : Pattern.Refusal) : Prop :=
  ∃ ctx t, s.contexts.lookup n = some ctx ∧ s.targets.lookup m = some (some t) ∧
    c.MeetsMalformed definitions s.store.held? t ctx d rule r

/-- There is no audit log, or it works. -/
def AuditsQuietly (s : Session) : Prop := s.sink = none ∨ s.sink = some .working

/-- A delivery that cannot fail adds nothing to what a resolution records. -/
theorem resolve_records_of_quiet (quiet : s.AuditsQuietly) (a : Option Authentication)
    (ctx : RequestContext) (t : Option TargetService) :
    (s.resolve n m a ctx t).2.records = (s.chain.resolve a t ctx).records := by
  have hdelivery (event : Option AuditEvent) :
      (Delivery.of s.sink s.attempts event).records = [] := by
    rcases quiet with h | h
    · rw [h]
      rfl
    · rw [h]
      cases event <;> rfl
  exact (congrArg _ (hdelivery _)).trans (List.append_nil _)

/-- One resolution. -/
theorem step_warned (valid : c.Valid)
    (hchain : s.chain = valid.chain (.ofList definitions) s.store.store?)
    (memory : ∀ f, s.store ≠ .failing f) (quiet : s.AuditsQuietly) :
    (∀ d rule r, s.MeetsMalformed c definitions n m d rule r →
        warnings (s.step (.resolve n m p)).2.records = [RoleRules.warning d rule r]) ∧
      ((∀ d rule r, ¬ s.MeetsMalformed c definitions n m d rule r) →
        warnings (s.step (.resolve n m p)).2.records = []) := by
  rw [SessionStore.store?_of_memory memory] at hchain
  constructor
  · rintro d rule r ⟨ctx, t, hctx, ht, hmeets⟩
    rw [step_resolve hctx ht, resolve_records_of_quiet quiet, hchain]
    exact valid.resolve_warnings_of_meets hmeets
  · intro hnone
    rcases s.step_resolve_cases n m p with ⟨name, hstep⟩ | ⟨ctx, t, hctx, ht, hstep⟩
    · rw [hstep]
      rfl
    · rw [hstep, resolve_records_of_quiet quiet]
      cases t with
      | none => rfl
      | some t =>
        rw [hchain]
        exact valid.resolve_warnings_of_not_meets fun d rule r hmeets =>
          hnone d rule r ⟨ctx, t, hctx, ht, hmeets⟩

/-- A store that is held in memory stays there. -/
theorem before_memory (memory : ∀ f, s.store ≠ .failing f) (steps : List SessionStep) (i : Nat) :
    ∀ f, (s.before steps i).store ≠ .failing f := by
  refine before_of_step (P := fun s' => ∀ f, s'.store ≠ .failing f) memory ?_ i
  intro s' st _ hs'
  refine step_keeps (P := fun s' => ∀ f, s'.store ≠ .failing f) hs' (fun _ _ _ _ hs => hs)
    (fun _ _ _ _ hs => hs) (fun _ _ hs => hs) fun s₁ ticket a _ hs f => ?_
  cases hstore : s₁.store with
  | absent => nofun
  | entries list => nofun
  | failing g => exact absurd hstore (hs g)

theorem before_quiet (quiet : s.AuditsQuietly) (steps : List SessionStep) (i : Nat) :
    (s.before steps i).AuditsQuietly := by
  refine before_of_step (P := AuditsQuietly) quiet (fun s' st _ hs' => ?_) i
  rwa [AuditsQuietly, step_sink]

/-- **Warnings point at malformed patterns.** In a session over the chain of a valid configuration,
with services and authentications held in memory, and with no audit log or one that works, a
resolution of a run warns just if the request gets as far as a rule with a malformed pattern: the
request does not ask for a method, the ticket of its flow is that of a user, and the first
definition that governs the target states the rule, with names that are not empty and for a
configured method. Then there is one warning, and it tells of that rule and that pattern; whatever
else a resolution records is below a warning. -/
theorem warned_iff_malformed {v : Json} (valid : Config.check v = .ok c) (s : Session)
    (built : ∀ store, Chain.ofConfig? c (.ofList definitions) store = .ok (s.assemble store))
    (memory : ∀ f, s.store ≠ .failing f) (quiet : s.AuditsQuietly) (steps : List SessionStep)
    (i : Nat) (taken : steps[i]? = some (.resolve n m p)) :
    ∃ s' reaction, (s.run steps)[i]? = some (s', reaction) ∧
      (warnings reaction.records ≠ [] ↔
        ∃ d rule r, (s.before steps i).MeetsMalformed c definitions n m d rule r) ∧
      ∀ d rule r, (s.before steps i).MeetsMalformed c definitions n m d rule r →
        warnings reaction.records = [RoleRules.warning d rule r] := by
  have h := Config.valid_of_check valid
  have hchain : (s.before steps i).chain =
      h.chain (.ofList definitions) (s.before steps i).store.store? := by
    rw [chain, before_assemble]
    exact Except.ok.inj ((built _).symm.trans (h.ofConfig?_eq _ _))
  obtain ⟨hone, hnone⟩ := step_warned (n := n) (m := m) (p := p) h hchain
    (before_memory memory steps i) (before_quiet quiet steps i)
  refine ⟨_, _, by rw [run_getElem?, taken, Option.map_some], ⟨fun hwarned => ?_, ?_⟩, hone⟩
  · by_contra hmeets
    exact hwarned (hnone fun d rule r h => hmeets ⟨d, rule, r, h⟩)
  · rintro ⟨d, rule, r, hmeets⟩
    rw [hone d rule r hmeets]
    exact List.cons_ne_nil _ _

/-- The first of two definitions leaves a parenthesis open, and the resolution warns of it. -/
theorem warned_iff_malformed_parenthesis :
    let v : Json := .obj [("authentication_methods",
      .arr [.obj [("name", .str "sms"), ("rank", .int 1)]])]
    let c : Config := { methods := [⟨"sms", 1⟩] }
    let d (pattern : Text) : ServiceDefinition := ⟨"app", "app", none,
      [("mfa_attribute_name", "roles"), ("mfa_attribute_pattern", pattern),
        ("authn_method", "sms")]⟩
    let registry : Registry := ⟨c.methods, by decide⟩
    let services : ServiceDirectory := .ofList [d "(", d "admin"]
    let user : Authentication := ⟨⟨"ann", [("roles", .str "admin")]⟩⟩
    let s : Session :=
      { assemble := fun store => ⟨c.resolvers registry services store, { registry := registry }⟩
        services := services
        store := .entries [("TGT-1", user)]
        sink := some .working }
    let steps : List SessionStep :=
      [.request "r" ⟨[], [("ticketGrantingTicketId", .str "TGT-1")], "r1", false⟩,
        .target "t" { id := "app" }, .resolve "r" "t" none]
    Config.check v = .ok c ∧ ∃ s' reaction, (s.run steps)[2]? = some (s', reaction) ∧
      warnings reaction.records = [RoleRules.invalidPatternRecord (d "(") "("
        "missing ), unterminated subpattern at position 0"] := by
  intro v c d registry services user s steps
  have valid : Config.check v = .ok c := by cbv
  have hgoverning : ServiceDirectory.Governing [d "(", d "admin"] "app" (d "(") :=
    ServiceDirectory.find_ofList_iff.mp (by cbv)
  have hrefused : Pattern.compile "(" =
      .error (.malformed (.missing "), unterminated subpattern") (some 0)) := by cbv
  have hmeets : (s.before steps 2).MeetsMalformed c [d "(", d "admin"] "r" "t" (d "(")
      ⟨"roles", "(", ⟨"sms", 1⟩⟩ (.malformed (.missing "), unterminated subpattern") (some 0)) := by
    refine ⟨_, _, rfl, rfl, ?_, hgoverning, ⟨_, user, rfl, ?_⟩, hrefused, _, _, rfl⟩
    · rintro m ⟨_, hparameter, -⟩
      cases hparameter
    · exact ⟨⟨_, hgoverning, rfl, by decide, rfl, by decide, rfl⟩, List.mem_singleton_self _,
        "TGT-1", rfl, rfl, rfl⟩
  obtain ⟨s', reaction, hrun, -, hwarned⟩ := warned_iff_malformed valid s (fun _ => rfl)
    (fun _ h => by cases h) (Or.inr rfl) steps 2 rfl
  refine ⟨valid, s', reaction, hrun, ?_⟩
  rw [hwarned _ _ _ hmeets]
  rfl

end Session

end StepUp
