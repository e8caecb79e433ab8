import StepUp.Proofs.Chain.Search
import StepUp.Proofs.Verifier

/-!
# How a resolution ends

`Chain.Ends` lists the nine ways in which a resolution can end, each with the condition under
which it does and with all that it leaves behind apart from records: the answer, the context, the
target and the audit event. Nothing in it speaks of the order in which the chain does its work;
a candidate is the proposal of the first resolver that does not pass, and a supported method is a
member of the registry.

* `ending_of_ends`: a resolution ends in the way whose condition holds.
* `exists_ends`: some condition holds, whatever chain, user, target and context.
* `ends_resolve`: hence what a resolution does is read off by cases on `Chain.Ends`.
* `resolution_ends_iff`: the two together, with the resolvers that are never asked.
-/

namespace StepUp

/-- What a resolution leaves behind, apart from its records. -/
structure Ending where
  answer : Except ResolutionFault (Option Requirement)
  context : RequestContext
  target : Option TargetService
  event : Option AuditEvent

def Resolution.ending (x : Resolution) : Ending := ⟨x.answer, x.context, x.target, x.event⟩

namespace Chain

/-- The event of a resolution that came to a candidate. -/
def candidateEvent (a : Option Authentication) (t : TargetService) (c : RequestContext)
    (o : Outcome) (m : Text) (s : Source) : AuditEvent :=
  { eventFor a (some t) c o with method := some m, source := some s.text }

/-- The ways in which a resolution ends. -/
inductive Ends (chain : Chain) (a : Option Authentication) (c : RequestContext) :
    Option TargetService → Ending → Prop where
  /-- The request names no service. -/
  | noTarget : Ends chain a c none ⟨.ok none, c, none, some (eventFor a none c .noMfa)⟩
  /-- No resolver has anything to say. -/
  | noCandidate {t : TargetService} (pass : ∀ r ∈ chain.resolvers, r.Passes a t c) :
      Ends chain a c (some t) ⟨.ok none, c, some t, some (eventFor a (some t) c .noMfa)⟩
  /-- The resolver that settles the matter fails, and so does the resolution. -/
  | failed {t : TargetService} {r : Resolver} {f : HostFailure}
      (raised : chain.Raises a t c r f) :
      Ends chain a c (some t) ⟨.error (.failed (failureReason r.name f)), c, some t,
        some { eventFor a (some t) c .failed with
          source := some r.source.text, error := some f.describe }⟩
  /-- The first unsupported candidate of the request is reported. -/
  | rejected {t : TargetService} {r : Resolver} {m : Text}
      (proposed : chain.Proposes a t c r m) (real : chain.verifier.acceptance = .registered)
      (unsupported : m ∉ chain.verifier.registry.names) (unmarked : c.marker = false) :
      Ends chain a c (some t) ⟨.error (.rejected ⟨some m, some t.id⟩), c.marked, some t,
        some (candidateEvent a t c .rejected m r.source)⟩
  /-- A later one is not. -/
  | suppressed {t : TargetService} {r : Resolver} {m : Text}
      (proposed : chain.Proposes a t c r m) (real : chain.verifier.acceptance = .registered)
      (unsupported : m ∉ chain.verifier.registry.names) (marked : c.marker = true) :
      Ends chain a c (some t) ⟨.ok none, c, some t,
        some (candidateEvent a t c .suppressed m r.source)⟩
  /-- A supported candidate becomes the requirement of a target that has none. -/
  | required {t : TargetService} {r : Resolver} {method : Method}
      (proposed : chain.Proposes a t c r method.name)
      (member : method ∈ chain.verifier.registry.methods) (bare : t.requirement = none) :
      Ends chain a c (some t) ⟨.ok (some ⟨method, r.source⟩), c,
        some { t with requirement := some ⟨method, r.source⟩ },
        some { candidateEvent a t c .verified method.name r.source with
          rank := some method.rank }⟩
  /-- The target has that very requirement. -/
  | again {t : TargetService} {r : Resolver} {method : Method}
      (proposed : chain.Proposes a t c r method.name)
      (member : method ∈ chain.verifier.registry.methods)
      (same : t.requirement = some ⟨method, r.source⟩) :
      Ends chain a c (some t) ⟨.ok (some ⟨method, r.source⟩), c, some t,
        some { candidateEvent a t c .verified method.name r.source with
          rank := some method.rank }⟩
  /-- The target has another requirement, which stays. -/
  | conflicting {t : TargetService} {r : Resolver} {method : Method} {existing : Requirement}
      (proposed : chain.Proposes a t c r method.name)
      (member : method ∈ chain.verifier.registry.methods)
      (carried : t.requirement = some existing) (other : existing ≠ ⟨method, r.source⟩) :
      Ends chain a c (some t)
        ⟨.error (.failed (conflictReason t existing ⟨method, r.source⟩)), c, some t,
        some { candidateEvent a t c .failed method.name r.source with
          error := some (conflictReason t existing ⟨method, r.source⟩) }⟩
  /-- A verifier that accepts everything lets a name through that no method has. -/
  | unregistered {t : TargetService} {r : Resolver} {m : Text}
      (proposed : chain.Proposes a t c r m) (lax : chain.verifier.acceptance = .everything)
      (unsupported : m ∉ chain.verifier.registry.names) :
      Ends chain a c (some t) ⟨.error (.failed (missingReason m)), c, some t, none⟩

variable {chain : Chain} {a : Option Authentication} {t : TargetService} {c : RequestContext}
  {target : Option TargetService} {r : Resolver} {m : Text} {e : Ending}

/-! ## What becomes of a candidate -/

theorem resolve_of_all_pass (h : ∀ r ∈ chain.resolvers, r.Passes a t c) :
    (chain.resolve a (some t) c).ending =
      ⟨.ok none, c, some t, some (eventFor a (some t) c .noMfa)⟩ := by
  have hf := find_of_all_pass h
  rcases hfind : find a t c chain.resolvers with ⟨records, finding⟩
  rw [hfind] at hf
  subst hf
  simp [resolve, hfind, told, Resolution.ending]

theorem resolve_of_raises {f : HostFailure} (h : chain.Raises a t c r f) :
    (chain.resolve a (some t) c).ending =
      ⟨.error (.failed (failureReason r.name f)), c, some t,
        some { eventFor a (some t) c .failed with
          source := some r.source.text, error := some f.describe }⟩ := by
  have hf := find_of_raises h
  rcases hfind : find a t c chain.resolvers with ⟨records, finding⟩
  rw [hfind] at hf
  subst hf
  simp [resolve, hfind, told, Resolution.ending]

/-- A candidate that is found is judged. -/
theorem resolve_of_found {s : Source} (h : (find a t c chain.resolvers).2 = .candidate m s) :
    ∃ records, chain.resolve a (some t) c =
      chain.judge (eventFor a (some t) c) m s c t records := by
  rcases hfind : find a t c chain.resolvers with ⟨records, finding⟩
  rw [hfind] at h
  subst h
  exact ⟨records, by simp [resolve, hfind]⟩

theorem resolve_of_proposes (h : chain.Proposes a t c r m) :
    ∃ records, chain.resolve a (some t) c =
      chain.judge (eventFor a (some t) c) m r.source c t records :=
  resolve_of_found (find_of_proposes h)

/-- A candidate that is the name of a registered method is turned into a requirement. -/
theorem judge_of_mem {method : Method} (h : method ∈ chain.verifier.registry.methods)
    (e : Outcome → AuditEvent) (s : Source) (c : RequestContext) (t : TargetService)
    (records : List LogRecord) :
    chain.judge e method.name s c t records = require e ⟨method, s⟩ c t records := by
  have hv := Verifier.accepts_of_mem (Registry.name_mem_names h)
  have hget := Registry.get?_eq_some_iff.mpr ⟨h, rfl⟩
  simp [judge, Verifier.verify_of_accepts hv, hget]

theorem judge_of_unregistered (hlax : chain.verifier.acceptance = .everything)
    (h : m ∉ chain.verifier.registry.names) (e : Outcome → AuditEvent) (s : Source)
    (c : RequestContext) (t : TargetService) (records : List LogRecord) :
    (chain.judge e m s c t records).ending =
      ⟨.error (.failed (missingReason m)), c, some t, none⟩ := by
  have hv : chain.verifier.accepts (some m) = true := by simp [Verifier.accepts, hlax]
  simp [judge, Verifier.verify_of_accepts hv, Registry.get?_eq_none_iff.mpr h, Resolution.ending]

/-! ## The ways to end are the ways a resolution ends -/

/-- A resolution ends in the way whose condition holds. -/
theorem ending_of_ends (h : chain.Ends a c target e) : (chain.resolve a target c).ending = e := by
  cases h with
  | noTarget => rfl
  | noCandidate pass => exact resolve_of_all_pass pass
  | failed raised => exact resolve_of_raises raised
  | rejected proposed real unsupported unmarked =>
    obtain ⟨records, hres⟩ := resolve_of_proposes proposed
    have hv := Verifier.verify_of_unmarked (Verifier.refuses_some_iff.mpr ⟨real, unsupported⟩)
    rw [hres]
    simp [judge, hv _ unmarked, told, Resolution.ending, candidateEvent]
  | suppressed proposed real unsupported marked =>
    obtain ⟨records, hres⟩ := resolve_of_proposes proposed
    have hv := Verifier.verify_of_marked (Verifier.refuses_some_iff.mpr ⟨real, unsupported⟩)
    rw [hres]
    simp [judge, hv _ marked, told, Resolution.ending, candidateEvent]
  | required proposed member bare =>
    obtain ⟨records, hres⟩ := resolve_of_proposes proposed
    rw [hres, judge_of_mem member]
    simp [require, bare, told, Resolution.ending, candidateEvent]
  | again proposed member same =>
    obtain ⟨records, hres⟩ := resolve_of_proposes proposed
    rw [hres, judge_of_mem member]
    simp [require, same, told, Resolution.ending, candidateEvent]
  | conflicting proposed member carried other =>
    obtain ⟨records, hres⟩ := resolve_of_proposes proposed
    rw [hres, judge_of_mem member]
    simp [require, carried, other, told, Resolution.ending, candidateEvent]
  | unregistered proposed lax unsupported =>
    obtain ⟨records, hres⟩ := resolve_of_proposes proposed
    rw [hres, judge_of_unregistered lax unsupported]

theorem exists_ends_of_mem {method : Method} (h : chain.Proposes a t c r method.name)
    (hmem : method ∈ chain.verifier.registry.methods) : ∃ e, chain.Ends a c (some t) e := by
  cases hreq : t.requirement with
  | none => exact ⟨_, .required h hmem hreq⟩
  | some existing =>
    by_cases heq : existing = ⟨method, r.source⟩
    · subst heq
      exact ⟨_, .again h hmem hreq⟩
    · exact ⟨_, .conflicting h hmem hreq heq⟩

theorem exists_ends_of_not_mem (h : chain.Proposes a t c r m)
    (hn : m ∉ chain.verifier.registry.names) : ∃ e, chain.Ends a c (some t) e := by
  cases hacc : chain.verifier.acceptance with
  | registered =>
    cases hmark : c.marker with
    | false => exact ⟨_, .rejected h hacc hn hmark⟩
    | true => exact ⟨_, .suppressed h hacc hn hmark⟩
  | everything => exact ⟨_, .unregistered h hacc hn⟩

/-- Some condition holds. -/
theorem exists_ends (chain : Chain) (a : Option Authentication) (c : RequestContext)
    (target : Option TargetService) : ∃ e, chain.Ends a c target e := by
  cases target with
  | none => exact ⟨_, .noTarget⟩
  | some t =>
    rcases chain.search_cases a t c with hall | ⟨r, f, hraise⟩ | ⟨r, m, hprop⟩
    · exact ⟨_, .noCandidate hall⟩
    · exact ⟨_, .failed hraise⟩
    · by_cases hm : m ∈ chain.verifier.registry.names
      · obtain ⟨method, hmem, rfl⟩ := Registry.mem_names_iff.mp hm
        exact exists_ends_of_mem hprop hmem
      · exact exists_ends_of_not_mem hprop hm

theorem ends_resolve (chain : Chain) (a : Option Authentication) (target : Option TargetService)
    (c : RequestContext) : chain.Ends a c target (chain.resolve a target c).ending := by
  obtain ⟨e, he⟩ := chain.exists_ends a c target
  rw [ending_of_ends he]
  exact he

/-! ## What a resolution changes -/

namespace Ends

/-- Only a rejection touches the context. -/
theorem context_eq (h : chain.Ends a c target e)
    (hn : ∀ x, e.answer ≠ .error (.rejected x)) : e.context = c := by
  cases h with
  | rejected => exact absurd rfl (hn _)
  | _ => rfl

/-- A rejection is due to a real verifier, an unsupported candidate and a request that is not
marked, and marks it. -/
theorem of_rejected (h : chain.Ends a c target e) {x : Rejection}
    (hx : e.answer = .error (.rejected x)) :
    chain.verifier.acceptance = .registered ∧ c.marker = false ∧ e.context = c.marked ∧
      ∃ t r m, target = some t ∧ chain.Proposes a t c r m ∧
        m ∉ chain.verifier.registry.names ∧ x = ⟨some m, some t.id⟩ := by
  cases h with
  | rejected proposed real unsupported unmarked =>
    cases hx
    exact ⟨real, unmarked, rfl, _, _, _, rfl, proposed, unsupported, rfl⟩
  | _ => cases hx

/-- Only a requirement that is returned touches the target. -/
theorem target_eq (h : chain.Ends a c target e) (hn : ∀ q, e.answer ≠ .ok (some q)) :
    e.target = target := by
  cases h with
  | required => exact absurd rfl (hn _)
  | _ => rfl

/-- A requirement that is returned is a registered method with the source of the resolver that
proposed it; the target had none or this one, and has this one. -/
theorem of_required (h : chain.Ends a c target e) {q : Requirement}
    (hq : e.answer = .ok (some q)) :
    ∃ t r, target = some t ∧ chain.Proposes a t c r q.method.name ∧ q.source = r.source ∧
      q.method ∈ chain.verifier.registry.methods ∧
      (t.requirement = none ∨ t.requirement = some q) ∧
      e.target = some { t with requirement := some q } := by
  cases h with
  | required proposed member bare =>
    cases hq
    exact ⟨_, _, rfl, proposed, rfl, member, Or.inl bare, rfl⟩
  | @again t r method proposed member same =>
    cases hq
    refine ⟨t, r, rfl, proposed, rfl, member, Or.inr same, ?_⟩
    rw [← same]
  | _ => cases hq

end Ends

/-- **How a resolution ends.** A resolution ends in a given way exactly when the condition of that
way holds; there is no other way, and none for which two conditions hold. Without a target it
does not depend on the resolvers at all, and otherwise not on those behind the first one that
does not pass: they are never asked. -/
theorem resolution_ends_iff (chain : Chain) (a : Option Authentication)
    (target : Option TargetService) (c : RequestContext) :
    (∀ e, (chain.resolve a target c).ending = e ↔ chain.Ends a c target e) ∧
      (∀ others, (Chain.mk others chain.verifier).resolve a none c = chain.resolve a none c) ∧
      ∀ t before r after others, chain.resolvers = before ++ r :: after → ¬ r.Passes a t c →
        (Chain.mk (before ++ r :: others) chain.verifier).resolve a (some t) c =
          chain.resolve a (some t) c := by
  refine ⟨fun e => ⟨?_, ending_of_ends⟩, fun others => rfl, ?_⟩
  · rintro rfl
    exact ends_resolve chain a target c
  · intro t before r after others hsplit hr
    simp only [resolve, judge, hsplit, find_append_cons hr]

/-- A blank proposal is passed over, the unknown method behind it is rejected, and the resolver
behind that one, which would fail, is not asked. -/
theorem resolution_ends_iff_unknown :
    let blank : Resolver := .fixed .requestParameter (some " \t")
    let unknown : Resolver := .fixed .principalAttribute (some "bogus")
    let failing : Resolver := .failing .mfaRole ⟨"RuntimeError", "down"⟩
    let chain : Chain := ⟨[blank, unknown, failing], { registry := .empty }⟩
    let t : TargetService := { id := "app" }
    let c : RequestContext := ⟨[], [], "r1", false⟩
    (chain.resolve none (some t) c).ending =
        ⟨.error (.rejected ⟨some "bogus", some "app"⟩), c.marked, some t,
          some (candidateEvent none t c .rejected "bogus" .principalAttribute)⟩ ∧
      (Chain.mk [blank, unknown] chain.verifier).resolve none (some t) c =
        chain.resolve none (some t) c := by
  intro blank unknown failing chain t c
  have hblank : blank.Passes none t c := Or.inr ⟨" \t", rfl, by decide⟩
  have hunknown : ¬ unknown.Passes none t c :=
    (Resolver.not_passes_iff_of_proposes rfl).mpr (by decide)
  have hprop : chain.Proposes none t c unknown "bogus" :=
    ⟨⟨[blank], [failing], rfl, by simpa using hblank, hunknown⟩, rfl⟩
  obtain ⟨hends, -, hothers⟩ := resolution_ends_iff chain none (some t) c
  refine ⟨(hends _).mpr (.rejected hprop rfl (by decide) rfl), ?_⟩
  exact hothers t [blank] unknown [failing] [] rfl hunknown

end Chain

end StepUp
