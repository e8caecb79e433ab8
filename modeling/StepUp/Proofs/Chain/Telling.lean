import StepUp.Proofs.Resolver

/-!
# The record that tells how a resolution ended

A chain tells how a resolution ended by a record that has the name of the audit events. It writes
that record last, and the records of its verifier have other names, so that what else has the name
was written by a resolver (`resolve_told`). There is just one record of that name if the resolvers
leave it to the chain (`resolve_told_once`). Those of this library do
(`Config.resolvers_leaveOutcome`).
-/

namespace StepUp

/-! ## Records of other names -/

/-- The records by the name of the one that tells how a resolution ended. -/
def outcomeRecords (records : List LogRecord) : List LogRecord :=
  records.filter fun x => x.event == AuditEvent.eventName

/-- There are none. -/
def LeaveOutcome (records : List LogRecord) : Prop :=
  ∀ x ∈ records, x.event ≠ AuditEvent.eventName

namespace LeaveOutcome

variable {xs ys : List LogRecord} {x : LogRecord}

theorem nil : LeaveOutcome [] := fun _ hx => absurd hx List.not_mem_nil

theorem cons (name : Text) (hname : x.event = name) (h : name ≠ AuditEvent.eventName)
    (hxs : LeaveOutcome xs) : LeaveOutcome (x :: xs) :=
  List.forall_mem_cons.mpr ⟨hname ▸ h, hxs⟩

theorem singleton (name : Text) (hname : x.event = name) (h : name ≠ AuditEvent.eventName) :
    LeaveOutcome [x] := cons name hname h nil

theorem append (hxs : LeaveOutcome xs) (hys : LeaveOutcome ys) : LeaveOutcome (xs ++ ys) :=
  List.forall_mem_append.mpr ⟨hxs, hys⟩

theorem outcomeRecords_eq_nil (h : LeaveOutcome xs) : outcomeRecords xs = [] := by
  simpa [outcomeRecords, List.filter_eq_nil_iff, LeaveOutcome] using h

end LeaveOutcome

/-! ## The records of the resolvers -/

namespace Resolver

/-- The resolver leaves it to the chain to tell how a resolution ended. -/
def LeavesOutcome (r : Resolver) : Prop := ∀ a t c, LeaveOutcome (r.propose a t c).records

theorem requestParameter_leavesOutcome (parameter : Text) :
    (requestParameter parameter).LeavesOutcome := by
  intro a t c
  unfold requestParameter
  dsimp only
  split
  · exact .nil
  · exact .singleton "method_from_request_parameter" rfl (by decide)

theorem ofDefinition_leaveOutcome (property : Text) (default : Option Text)
    (d : ServiceDefinition) (c : RequestContext) :
    LeaveOutcome (ofDefinition property default d c).records := by
  unfold ofDefinition
  split
  · exact .singleton "service_defers_to_mfa_roles" rfl (by decide)
  · split
    · exact .nil
    · split
      · exact .nil
      · exact .singleton "service_default_method" rfl (by decide)

theorem registeredService_leavesOutcome (services : ServiceDirectory) (property : Text)
    (default : Option Text) : (registeredService services property default).LeavesOutcome := by
  intro a t c
  unfold registeredService
  dsimp only
  split
  · exact .nil
  · exact .singleton "service_not_registered" rfl (by decide)
  · exact ofDefinition_leaveOutcome _ _ _ _

theorem principalAttribute_leavesOutcome (registry : Registry) (name : Text) :
    (principalAttribute registry name).LeavesOutcome := by
  intro a t c
  unfold principalAttribute
  dsimp only
  split
  · exact .nil
  · split
    · exact .nil
    · split
      · exact .singleton "method_from_principal_attribute" rfl (by decide)
      · exact .cons "method_from_principal_attribute" rfl (by decide)
          (.singleton "principal_method_unsupported" rfl (by decide))

theorem evaluate_leaveOutcome (rules : RoleRules) (a : Authentication) (d : ServiceDefinition) :
    LeaveOutcome (rules.evaluate a d).records := by
  unfold RoleRules.evaluate
  split
  · split
    · exact .singleton "mfa_role_method_unsupported" rfl (by decide)
    · split
      · exact .nil
      · split
        · exact .nil
        · exact .singleton "mfa_role_pattern_invalid" rfl (by decide)
  · exact .singleton "mfa_role_rule_incomplete" rfl (by decide)

theorem ofFinding_leaveOutcome {finding : RoleFinding} (h : LeaveOutcome finding.records)
    (selection : RoleSelection) (d : ServiceDefinition) (c : RequestContext) :
    LeaveOutcome (ofFinding selection d c finding).records := by
  unfold ofFinding
  split
  · exact h
  · split
    · exact h.append (.singleton "mfa_role_no_match" rfl (by decide))
    · exact h.append (.singleton "mfa_role_matched" rfl (by decide))

theorem mfaRole_leavesOutcome (rules : RoleRules) (services : ServiceDirectory)
    (store : AuthenticationStore) (selection : RoleSelection) :
    (mfaRole rules services store selection).LeavesOutcome := by
  intro a t c
  unfold mfaRole
  dsimp only
  split
  · exact .singleton "mfa_role_no_ticket" rfl (by decide)
  · split
    · exact .nil
    · exact .singleton "mfa_role_no_authentication" rfl (by decide)
    · split
      · exact .nil
      · exact .nil
      · exact ofFinding_leaveOutcome (evaluate_leaveOutcome _ _ _) _ _ _

end Resolver

/-- The standard resolvers leave it to the chain to tell how a resolution ended. -/
theorem Config.resolvers_leaveOutcome (config : Config) (registry : Registry)
    (services : ServiceDirectory) (store : Option AuthenticationStore) :
    ∀ r ∈ config.resolvers registry services store, r.LeavesOutcome := by
  intro r hr
  rcases mem_resolvers_iff.mp hr with rfl | rfl | ⟨_, -, rfl⟩ | ⟨_, -, -, rfl⟩
  · exact Resolver.requestParameter_leavesOutcome _
  · exact Resolver.registeredService_leavesOutcome _ _ _
  · exact Resolver.mfaRole_leavesOutcome _ _ _ _
  · exact Resolver.principalAttribute_leavesOutcome _ _

/-! ## The records of a chain -/

theorem Verifier.verify_leaveOutcome (v : Verifier) (method : Option Text) (t : TargetService)
    (c : RequestContext) : LeaveOutcome (v.verify method t c).records := by
  unfold Verifier.verify
  split
  · exact .nil
  · split
    · exact .singleton "unsupported_authentication_method" rfl (by decide)
    · exact .cons "unsupported_authentication_method" rfl (by decide)
        (.singleton "unsupported_authentication_method_suppressed" rfl (by decide))

namespace Chain

variable {chain : Chain} {a : Option Authentication} {t : TargetService} {c : RequestContext}
  {target : Option TargetService} {e : AuditEvent} {x : LogRecord}

/-- What the search records was recorded by one of the resolvers. -/
theorem exists_of_mem_find {resolvers : List Resolver} (h : x ∈ (find a t c resolvers).1) :
    ∃ r ∈ resolvers, x ∈ (r.propose a t c).records := by
  induction resolvers with
  | nil => cases h
  | cons r rest ih =>
    unfold find at h
    dsimp only at h
    split at h
    · exact ⟨r, List.mem_cons_self, h⟩
    · split at h
      · exact ⟨r, List.mem_cons_self, h⟩
      · rcases List.mem_append.mp h with h | h
        · exact ⟨r, List.mem_cons_self, h⟩
        · obtain ⟨q, hq, hx⟩ := ih h
          exact ⟨q, List.mem_cons_of_mem _ hq, hx⟩

theorem require_told (e : Outcome → AuditEvent) (q : Requirement) (c : RequestContext)
    (t : TargetService) (records : List LogRecord) :
    ∃ e', (require e q c t records).event = some e' ∧
      (require e q c t records).records = records ++ [outcomeRecord e'] := by
  unfold require
  dsimp only
  split
  · exact ⟨_, rfl, rfl⟩
  · split
    · exact ⟨_, rfl, rfl⟩
    · exact ⟨_, rfl, rfl⟩

theorem judge_told {event : Outcome → AuditEvent} {m : Text} {s : Source}
    {records : List LogRecord} (h : (chain.judge event m s c t records).event = some e) :
    ∃ own, LeaveOutcome own ∧
      (chain.judge event m s c t records).records = (records ++ own) ++ [outcomeRecord e] := by
  refine ⟨_, chain.verifier.verify_leaveOutcome (some m) t c, ?_⟩
  unfold judge at h ⊢
  dsimp only at h ⊢
  split at h
  · cases h
    rfl
  · cases h
    rfl
  · split at h
    · cases h
    · next method _ =>
      obtain ⟨e', hevent, hrecords⟩ := require_told event ⟨method, s⟩
        (chain.verifier.verify (some m) t c).context t
        (records ++ (chain.verifier.verify (some m) t c).records)
      cases hevent.symm.trans h
      exact hrecords

theorem outcomeRecords_append (xs ys : List LogRecord) :
    outcomeRecords (xs ++ ys) = outcomeRecords xs ++ outcomeRecords ys := List.filter_append _ _

theorem outcomeRecords_told (records : List LogRecord) (e : AuditEvent) :
    outcomeRecords (records ++ [outcomeRecord e]) = outcomeRecords records ++ [outcomeRecord e] := by
  simp [outcomeRecords, outcomeRecord]

/-- The last of the records by that name tells the event, and the others, if any, were written by
resolvers. -/
theorem resolve_told (h : (chain.resolve a target c).event = some e) :
    ∃ others, outcomeRecords (chain.resolve a target c).records = others ++ [outcomeRecord e] ∧
      ∀ x ∈ others, ∃ t, target = some t ∧ ∃ r ∈ chain.resolvers, x ∈ (r.propose a t c).records := by
  cases target with
  | none =>
    cases h
    exact ⟨[], outcomeRecords_told [] _, nofun⟩
  | some t =>
    have hown : ∀ x ∈ outcomeRecords (find a t c chain.resolvers).1, ∃ t', some t = some t' ∧
        ∃ r ∈ chain.resolvers, x ∈ (r.propose a t' c).records := fun x hx =>
      ⟨t, rfl, exists_of_mem_find (List.mem_filter.mp hx).1⟩
    refine ⟨_, ?_, hown⟩
    unfold resolve at h ⊢
    dsimp only at h ⊢
    split at h
    · next records hfind =>
      cases h
      rw [hfind]
      exact outcomeRecords_told _ _
    · next records name source f hfind =>
      cases h
      rw [hfind]
      exact outcomeRecords_told _ _
    · next records method source hfind =>
      obtain ⟨own, hown, hrecords⟩ := judge_told h
      rw [hfind, hrecords, outcomeRecords_told, outcomeRecords_append,
        hown.outcomeRecords_eq_nil, List.append_nil]

/-- There are no others if the resolvers leave it to the chain to tell how a resolution ended. -/
theorem resolve_told_once (h : (chain.resolve a target c).event = some e)
    (leave : ∀ r ∈ chain.resolvers, r.LeavesOutcome) :
    outcomeRecords (chain.resolve a target c).records = [outcomeRecord e] := by
  obtain ⟨others, hrecords, hothers⟩ := resolve_told h
  have hnil : others = [] := by
    refine List.eq_nil_iff_forall_not_mem.mpr fun x hx => ?_
    obtain ⟨t, -, r, hr, hxr⟩ := hothers x hx
    have hname : x ∈ outcomeRecords (chain.resolve a target c).records :=
      hrecords ▸ List.mem_append_left _ hx
    exact leave r hr a t c x hxr (by simpa using (List.mem_filter.mp hname).2)
  rw [hrecords, hnil, List.nil_append]

end Chain

end StepUp
