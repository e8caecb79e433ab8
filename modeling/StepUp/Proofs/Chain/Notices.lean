import StepUp.Audit.Sink
import StepUp.Proofs.Chain.Telling
import StepUp.Proofs.Log.Notice

/-!
# A resolution writes notices

Whatever the resolvers that this library provides, a verifier and a chain of such resolvers write to
the system log tells a notice (`Chain.telling_resolve`), and so does a write to the audit log that
fails (`Delivery.telling`).
-/

namespace StepUp

/-- Each of the records tells a notice. -/
def Telling (records : List LogRecord) : Prop := ∀ x ∈ records, ∃ n, LogRecord.Tells x n

namespace Telling

variable {xs ys : List LogRecord} {x : LogRecord} {n : Notice}

theorem nil : Telling [] := nofun

theorem singleton (level : x.level = n.level) (event : x.event = n.event)
    (message : x.message = n.pieces.flatMap Piece.text) : Telling [x] :=
  List.forall_mem_singleton.mpr ⟨n, level, event, message⟩

theorem append (hx : Telling xs) (hy : Telling ys) : Telling (xs ++ ys) :=
  List.forall_mem_append.mpr ⟨hx, hy⟩

/-- Records that tell notices, one by one. -/
theorem exists_notices (h : Telling xs) :
    ∃ notices, List.Forall₂ LogRecord.Tells xs notices := by
  induction xs with
  | nil => exact ⟨[], .nil⟩
  | cons x rest ih =>
    obtain ⟨⟨n, hn⟩, hrest⟩ := List.forall_mem_cons.mp h
    obtain ⟨notices, hnotices⟩ := ih hrest
    exact ⟨n :: notices, .cons hn hnotices⟩

end Telling

/-! ## Resolvers -/

namespace RoleRules

theorem telling_evaluate (rules : RoleRules) (u : Authentication) (d : ServiceDefinition) :
    Telling (rules.evaluate u d).records := by
  unfold evaluate
  split
  · next name pattern method _ _ _ =>
    split
    · exact .singleton (n := .unusable d.id method) rfl rfl (by
        simp [unsupportedRecord, Notice.pieces, Piece.text])
    · split
      · exact .nil
      · next r _ =>
        split
        · exact .nil
        · exact .singleton (n := .malformed d.id pattern (r.message pattern)) rfl rfl (by
            simp [invalidPatternRecord, Notice.pieces, Piece.text])
  · exact .singleton (n := .incomplete d.id) rfl rfl (by
      simp [incompleteRecord, Notice.pieces, Piece.text])

end RoleRules

namespace Resolver

variable {a : Option Authentication} {t : TargetService} {c : RequestContext}

/-- The resolvers of this library. -/
inductive Provided : Resolver → Prop where
  | requestParameter (parameter : Text) : Provided (.requestParameter parameter)
  | registeredService (services : ServiceDirectory) (property : Text) (default : Option Text) :
    Provided (.registeredService services property default)
  | mfaRole (rules : RoleRules) (services : ServiceDirectory) (store : AuthenticationStore)
      (selection : RoleSelection) : Provided (.mfaRole rules services store selection)
  | principalAttribute (registry : Registry) (name : Text) :
    Provided (.principalAttribute registry name)
  | fixed (source : Source) (candidate : Option Text) : Provided (.fixed source candidate)
  | failing (source : Source) (f : HostFailure) : Provided (.failing source f)

theorem telling_requestParameter (parameter : Text) :
    Telling ((requestParameter parameter).propose a t c).records := by
  unfold requestParameter
  dsimp only
  split
  · exact .nil
  · next method _ =>
    exact .singleton (n := .asked parameter method) rfl rfl (by
      simp [debug, Notice.pieces, Piece.text])

theorem telling_registeredService (services : ServiceDirectory) (property : Text)
    (default : Option Text) :
    Telling ((registeredService services property default).propose a t c).records := by
  unfold registeredService
  dsimp only
  split
  · exact .nil
  · exact .singleton (n := .unregistered t.id) rfl rfl (by
      simp [debug, Notice.pieces, Piece.text])
  · next d _ =>
    unfold ofDefinition
    split
    · exact .singleton (n := .deferred d.id) rfl rfl (by
        simp [debug, Notice.pieces, Piece.text])
    · split
      · exact .nil
      · split
        · exact .nil
        · next method _ =>
          exact .singleton (n := .defaulted d.id method) rfl rfl (by
            simp [debug, Notice.pieces, Piece.text])

theorem telling_ofFinding (selection : RoleSelection) (d : ServiceDefinition)
    {finding : RoleFinding} (h : Telling finding.records) :
    Telling (ofFinding selection d c finding).records := by
  unfold ofFinding
  split
  · exact h
  · split
    · exact h.append (.singleton (n := .unmatched d.id) rfl rfl (by
        simp [debug, Notice.pieces, Piece.text]))
    · next g _ =>
      exact h.append (.singleton (n := .matched g.role g.method.name d.id) rfl rfl (by
        simp [info, Notice.pieces, Piece.text]))

theorem telling_mfaRole (rules : RoleRules) (services : ServiceDirectory)
    (store : AuthenticationStore) (selection : RoleSelection) :
    Telling ((mfaRole rules services store selection).propose a t c).records := by
  unfold mfaRole
  dsimp only
  split
  · exact .singleton (n := .noTicket) rfl rfl (by
      simp [debug, Notice.pieces, Piece.text])
  · split
    · exact .nil
    · exact .singleton (n := .noAuthentication) rfl rfl (by
        simp [debug, Notice.pieces, Piece.text])
    · split
      · exact .nil
      · exact .nil
      · exact telling_ofFinding _ _ (rules.telling_evaluate _ _)

theorem telling_principalAttribute (registry : Registry) (name : Text) :
    Telling ((principalAttribute registry name).propose a t c).records := by
  unfold principalAttribute
  dsimp only
  split
  · exact .nil
  · next u =>
    split
    · exact .nil
    · next method rest _ =>
      have hfound : Telling [debug c "method_from_principal_attribute"
          ("Found attribute '" ++ name ++ "' = '" ++ method ++ "' for principal '"
            ++ u.principal.id ++ "'")] :=
        .singleton (n := .found name method u.principal.id) rfl rfl (by
          simp [debug, Notice.pieces, Piece.text])
      split
      · exact hfound
      · exact hfound.append (.singleton (n := .ignored name method u.principal.id) rfl rfl
          (by simp [info, Notice.pieces, Piece.text]))

theorem Provided.telling {r : Resolver} (h : r.Provided) :
    Telling (r.propose a t c).records := by
  cases h with
  | requestParameter parameter => exact telling_requestParameter parameter
  | registeredService services property default => exact telling_registeredService _ _ _
  | mfaRole rules services store selection => exact telling_mfaRole _ _ _ _
  | principalAttribute registry name => exact telling_principalAttribute _ _
  | fixed _ _ => exact .nil
  | failing _ _ => exact .nil

end Resolver

theorem Config.provided {c : Config} {registry : Registry} {services : ServiceDirectory}
    {store : Option AuthenticationStore} :
    ∀ r ∈ c.resolvers registry services store, r.Provided := by
  intro r hr
  obtain rfl | rfl | ⟨s, -, rfl⟩ | ⟨name, -, -, rfl⟩ := mem_resolvers_iff.mp hr
  · exact .requestParameter _
  · exact .registeredService _ _ _
  · exact .mfaRole _ _ _ _
  · exact .principalAttribute _ _

/-! ## Verifiers, chains and the audit log -/

theorem Verifier.telling (v : Verifier) (method : Option Text) (t : TargetService)
    (c : RequestContext) : Telling (v.verify method t c).records := by
  have hunsupported (c : RequestContext) : Telling [unsupportedRecord ⟨method, some t.id⟩ c] :=
    .singleton (n := .unsupported (Rejection.shown method)) rfl rfl (by
      simp [unsupportedRecord, Rejection.message, Notice.pieces, Piece.text])
  have hsuppressed (c : RequestContext) : Telling [suppressedRecord ⟨method, some t.id⟩ c] :=
    .singleton (n := .suppressed (Rejection.shown method)) rfl rfl (by
      simp [suppressedRecord, Notice.pieces, Piece.text])
  unfold verify
  split
  · exact .nil
  · dsimp only
    split
    · exact hunsupported _
    · exact (hunsupported _).append (hsuppressed _)

theorem Delivery.telling (sink : Option AuditSink) (n : Nat) (event : Option AuditEvent) :
    Telling (Delivery.of sink n event).records := by
  unfold Delivery.of
  split
  · split
    · exact .nil
    · next error _ =>
      exact .singleton (n := .unwritten error) rfl rfl (by
        simp [failureRecord, Notice.pieces, Piece.text])
  · exact .nil

namespace Chain

variable {chain : Chain} {a : Option Authentication} {t : TargetService} {c : RequestContext}
  {records : List LogRecord}

/-- The event names the source of the candidate, if there is one. -/
def Sourced (e : AuditEvent) : Prop := ∃ source : Option Source, e.source = source.map Source.text

theorem telling_outcomeRecord {e : AuditEvent} (h : Sourced e) : Telling [outcomeRecord e] := by
  obtain ⟨source, hsource⟩ := h
  refine .singleton (n := .ended e.outcome (e.method.filter fun m => !m.isEmpty) source)
    rfl rfl ?_
  unfold outcomeRecord
  rw [hsource]
  cases e.method.filter fun m => !m.isEmpty <;> cases source <;>
    simp [Notice.pieces, Piece.text]

theorem telling_told {e : AuditEvent} (he : Sourced e) (h : Telling records)
    (answer : Except ResolutionFault (Option Requirement)) (c : RequestContext)
    (target : Option TargetService) : Telling (told e answer c target records).records :=
  h.append (telling_outcomeRecord he)

theorem telling_require (e : Outcome → AuditEvent) (q : Requirement) (c : RequestContext)
    (t : TargetService) (h : Telling records) : Telling (require e q c t records).records := by
  unfold require
  dsimp only
  split
  · exact telling_told ⟨some q.source, rfl⟩ h _ _ _
  · split
    · exact telling_told ⟨some q.source, rfl⟩ h _ _ _
    · exact telling_told ⟨some q.source, rfl⟩ h _ _ _

theorem telling_judge (e : Outcome → AuditEvent) (method : Text) (source : Source)
    (c : RequestContext) (t : TargetService) (h : Telling records) :
    Telling (chain.judge e method source c t records).records := by
  have hall := h.append (chain.verifier.telling (some method) t c)
  unfold judge
  dsimp only
  split
  · exact telling_told ⟨some source, rfl⟩ hall _ _ _
  · exact telling_told ⟨some source, rfl⟩ hall _ _ _
  · split
    · exact hall
    · exact telling_require _ _ _ _ hall

theorem telling_resolve (provided : ∀ r ∈ chain.resolvers, r.Provided)
    (a : Option Authentication) (target : Option TargetService) (c : RequestContext) :
    Telling (chain.resolve a target c).records := by
  cases target with
  | none => exact telling_told ⟨none, rfl⟩ .nil _ _ _
  | some t =>
    have hfind : Telling (find a t c chain.resolvers).1 := by
      intro x hx
      obtain ⟨r, hr, hx⟩ := exists_of_mem_find hx
      exact (provided r hr).telling x hx
    unfold resolve
    dsimp only
    split
    · next hfound =>
      rw [hfound] at hfind
      exact telling_told ⟨none, rfl⟩ hfind _ _ _
    · next source _ hfound =>
      rw [hfound] at hfind
      exact telling_told ⟨some source, rfl⟩ hfind _ _ _
    · next hfound =>
      rw [hfound] at hfind
      exact telling_judge _ _ _ _ _ hfind

end Chain

end StepUp
