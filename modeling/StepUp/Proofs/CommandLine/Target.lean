import StepUp.Proofs.CommandLine.Resolve

/-!
# What a dry run is about

The options for the service and the method become parameters of one request, and the target is read
off from that request again. A method takes the place of a service when the parameter for it is the
one that names services, and makes a target when there is no service and its parameter names the
target in one of the two protocols. `Surroundings.dry_run_target_iff` says that this is all that can
go wrong; `Surroundings.method_taken_for_service` is a run where it does.
-/

namespace StepUp

/-! ## The target of a request -/

namespace RequestContext

variable {c : RequestContext} {id : Text}

theorem map_id_target? : (c.target? ProtocolArguments.standard).map TargetService.id =
    (c.parameter? "service").or (c.parameter? "TARGET") := by
  show ([ProtocolArguments.cas, .saml].findSome? c.targetBy?).map _ = _
  simp only [List.findSome?, targetBy?, show ProtocolArguments.cas.serviceParameter =
    Text.ofString "service" from rfl, show ProtocolArguments.saml.serviceParameter =
    Text.ofString "TARGET" from rfl]
  cases c.parameter? "service" with
  | some id => rfl
  | none => cases c.parameter? "TARGET" <;> rfl

theorem target?_of_asks_service (h : c.Asks "service" id) :
    ∃ t, c.target? ProtocolArguments.standard = some t ∧ t.id = id := by
  rw [← Option.map_eq_some_iff, map_id_target?, parameter?_eq_some_iff.mpr h]
  rfl

theorem target?_eq_none_iff : c.target? ProtocolArguments.standard = none ↔
    (∀ id, ¬ c.Asks "service" id) ∧ ∀ id, ¬ c.Asks "TARGET" id := by
  rw [← Option.map_eq_none_iff, map_id_target?, Option.or_eq_none_iff, parameter?_eq_none_iff,
    parameter?_eq_none_iff]

end RequestContext

namespace DryRun

variable {d : DryRun} {c : Config} {a : Option Authentication} {request : RequestContext}
  {service method : Text}

/-- The method stands in the way of the service or of there being none. -/
def Confused (d : DryRun) (c : Config) : Prop :=
  (c.methodParameter = "service" ∨ c.methodParameter = "TARGET") ∧
    ∃ m, d.method = some m ∧ m.isBlank = false

/-- A method that is given is what the parameter for it asks for. -/
theorem Poses.asks_method (h : d.Poses c a request) (hmethod : d.method = some method)
    (hm : method.isBlank = false) : request.Asks c.methodParameter method :=
  h.asks_iff.mpr ⟨hm, Or.inl ⟨hmethod, rfl⟩⟩

/-- With a service and a method, the target is the service, unless the method took its place. -/
theorem Poses.exists_target (h : d.Poses c a request) (hservice : d.service = some service)
    (hs : service.isBlank = false) (hmethod : d.method = some method)
    (hm : method.isBlank = false) : ∃ t, request.target? ProtocolArguments.standard = some t ∧
      t.id = if c.methodParameter = "service" then method else service := by
  apply RequestContext.target?_of_asks_service
  by_cases hname : c.methodParameter = "service"
  · rw [if_pos hname]
    exact h.asks_iff.mpr ⟨hm, Or.inl ⟨hmethod, hname.symm⟩⟩
  · rw [if_neg hname]
    exact h.asks_iff.mpr ⟨hs, Or.inr ⟨hservice, rfl, fun heq => hname heq.1.symm⟩⟩

/-- Without a service there is no target, unless the method makes one. -/
theorem Poses.target?_eq_none_iff (h : d.Poses c a request)
    (hservice : ∀ t, d.service = some t → t.isBlank = true) :
    request.target? ProtocolArguments.standard = none ↔ ¬ d.Confused c := by
  have hasks : ∀ name id, request.Asks name id ↔
      id.isBlank = false ∧ d.method = some id ∧ name = c.methodParameter := by
    intro name id
    rw [h.asks_iff]
    constructor
    · rintro ⟨hid, hmethod | ⟨hgiven, -⟩⟩
      · exact ⟨hid, hmethod⟩
      · rw [hservice id hgiven] at hid
        cases hid
    · rintro ⟨hid, hmethod⟩
      exact ⟨hid, Or.inl hmethod⟩
  rw [RequestContext.target?_eq_none_iff]
  simp only [hasks, Confused]
  constructor
  · rintro ⟨hcas, hsaml⟩ ⟨hname | hname, m, hm, hblank⟩
    · exact hcas m ⟨hblank, hm, hname.symm⟩
    · exact hsaml m ⟨hblank, hm, hname.symm⟩
  · intro hclear
    constructor
    · rintro m ⟨hblank, hm, hname⟩
      exact hclear ⟨Or.inl hname.symm, m, hm, hblank⟩
    · rintro m ⟨hblank, hm, hname⟩
      exact hclear ⟨Or.inr hname.symm, m, hm, hblank⟩

end DryRun

/-! ## The candidate -/

namespace Chain

variable {chain : Chain} {a : Option Authentication} {t : TargetService} {c : Config}
  {request : RequestContext} {services : ServiceDirectory} {store : Option AuthenticationStore}
  {m : Text}

/-- What the request asks for is the candidate. -/
theorem proposes_of_asks (h : ofConfig? c services store = .ok chain)
    (hm : request.Asks c.methodParameter m) :
    chain.Proposes a t request (.requestParameter c.methodParameter) m := by
  obtain ⟨registry, rfl⟩ := ofConfig?_eq_ok h
  have houtcome := Resolver.requestParameter_of_asked (a := a) (t := t) hm
  refine ⟨⟨[], _, rfl, List.forall_mem_nil _, ?_⟩, houtcome⟩
  exact Resolver.not_passes_of_proposes houtcome hm.nonblank

/-- Where there is a candidate, a request that is not marked does not end without an answer. -/
theorem answer_of_proposes {r : Resolver} (h : chain.Proposes a t request r m)
    (unmarked : request.marker = false) : (chain.resolve a (some t) request).answer ≠ .ok none := by
  have hends := chain.ends_resolve a (some t) request
  intro hanswer
  have hnone : (chain.resolve a (some t) request).ending.answer = .ok none := hanswer
  generalize (chain.resolve a (some t) request).ending = x at hends hnone
  cases hends with
  | noCandidate pass => exact h.1.not_passes (pass r h.1.mem)
  | suppressed _ _ _ marked =>
    rw [unmarked] at marked
    cases marked
  | _ => cases hnone

end Chain

namespace Surroundings

variable {s : Surroundings} {arguments : List Text} {path : Text} {d : DryRun} {c : Config}
  {a : Option Authentication} {logs : Logs} {audited : Bool}

theorem telling_ne (q : Requirement) :
    s.telling q ≠ s.styled .faint "No MFA required." ++ "\n" := by
  intro h
  have hthird := congrArg (fun t => t[2]?) h
  cases hcolors : s.colors with
  | true =>
    simp only [telling, styled, hcolors, if_true] at hthird
    cases hthird
  | false =>
    simp only [telling, styled, hcolors, if_neg Bool.false_ne_true] at hthird
    cases hthird

/-- That no method is required is printed just if that is the answer. -/
theorem Concludes.nothing_iff {r : Resolution} {result : RunResult} (h : s.Concludes r result) :
    (result.exitCode = 0 ∧ result.output = s.styled .faint "No MFA required." ++ "\n") ↔
      r.answer = .ok none := by
  cases h with
  | required answer code output =>
    rw [answer, output]
    constructor
    · rintro ⟨-, heq⟩
      exact absurd heq (telling_ne _)
    · nofun
  | nothing answer _ code output => exact ⟨fun _ => answer, fun _ => ⟨code, output⟩⟩
  | rejected answer code _ =>
    rw [answer, code]
    constructor
    · rintro ⟨⟨⟩, -⟩
    · nofun
  | failed answer code _ =>
    rw [answer, code]
    constructor
    · rintro ⟨⟨⟩, -⟩
    · nofun

/-- **What a dry run is about.** Take a dry run with a valid configuration whose options make up a
login, and logs that can be set up. With a service and a method, neither of them blank, the target
is that service and the method its candidate, unless the parameter for methods is the one that
names services: then the method is the target as well. Without a service, it is printed that no
method is required, unless a method is given and its parameter is one that names the target in a
protocol. -/
theorem dry_run_target_iff
    (hargs : Invocation.ofArguments s.scope arguments = .ok (.resolve path d))
    (hload : Config.load s.files (Path.parse path) = .ok c) (hlogin : d.LoggedIn a)
    (hlogs : Logs.configure s.homes s.now c.logging { files := s.files } = (logs, .ok audited)) :
    ∃ chain request,
      Chain.ofConfig? c (.ofList c.services) (some (DryRun.store a)) = .ok chain ∧
      d.Poses c a request ∧
      s.Concludes (chain.resolve a (request.target? ProtocolArguments.standard) request)
        (s.run arguments) ∧
      (∀ service method, d.service = some service → service.isBlank = false →
        d.method = some method → method.isBlank = false →
        ((∃ t, request.target? ProtocolArguments.standard = some t ∧ t.id = service ∧
            chain.Proposes a t request (.requestParameter c.methodParameter) method) ↔
          c.methodParameter ≠ "service" ∨ service = method)) ∧
      ((∀ service, d.service = some service → service.isBlank = true) →
        ((s.run arguments).exitCode = 0 ∧
            (s.run arguments).output = s.styled .faint "No MFA required." ++ "\n" ↔
          ¬ d.Confused c)) := by
  have ha := DryRun.authentication?_eq_ok_iff.mpr hlogin
  obtain ⟨chain, hchain, hrun⟩ := run_of_accepted hargs hload ha hlogs
  have hposes := d.poses_request c a s.requestId
  have hends : s.Concludes (d.resolution c chain a s.requestId) (s.run arguments) := by
    rw [hrun]
    exact concludes_answered s hposes.unmarked _
  refine ⟨chain, d.request c a s.requestId, hchain, hposes, hends, ?_, ?_⟩
  · intro service method hservice hs hmethod hm
    obtain ⟨t, ht, hid⟩ := hposes.exists_target hservice hs hmethod hm
    have hproposes := Chain.proposes_of_asks (a := a) (t := t) hchain
      (hposes.asks_method hmethod hm)
    constructor
    · rintro ⟨t', ht', hservice', -⟩
      cases ht.symm.trans ht'
      by_cases hname : c.methodParameter = "service"
      · rw [if_pos hname] at hid
        exact Or.inr (hservice'.symm.trans hid)
      · exact Or.inl hname
    · intro h
      refine ⟨t, ht, ?_, hproposes⟩
      rw [hid]
      split
      · next hname => exact (h.resolve_left (not_not.mpr hname)).symm
      · rfl
  · intro hservice
    have htarget := hposes.target?_eq_none_iff hservice
    rw [hends.nothing_iff]
    constructor
    · intro hanswer hconfused
      obtain ⟨t, ht⟩ := Option.ne_none_iff_exists'.mp (mt htarget.mp (not_not.mpr hconfused))
      obtain ⟨-, m, hmethod, hm⟩ := hconfused
      have hproposes := Chain.proposes_of_asks (a := a) (t := t) hchain
        (hposes.asks_method hmethod hm)
      rw [DryRun.resolution, ht] at hanswer
      exact Chain.answer_of_proposes hproposes hposes.unmarked hanswer
    · intro hclear
      rw [DryRun.resolution, htarget.mpr hclear]
      rfl

/-- The parameter for methods names the target in the other protocol: the service is preferred. -/
theorem dry_run_target_iff_saml :
    let s := beside ("\x7b\"authentication_methods\": [\x7b\"name\": \"sms\", \"rank\": 1\x7d]," ++
      "\"authn_method_parameter\": \"TARGET\"\x7d")
    let c : Config := { methods := [⟨"sms", 1⟩], methodParameter := "TARGET" }
    let d : DryRun := { service := some "app", method := some "sms" }
    Config.load s.files (Path.parse "c.json") = .ok c ∧ ∃ chain request,
      Chain.ofConfig? c (.ofList c.services) (some (DryRun.store none)) = .ok chain ∧
      s.Concludes (chain.resolve none (request.target? ProtocolArguments.standard) request)
        (s.run (d.arguments "c.json")) ∧
      ∃ t, request.target? ProtocolArguments.standard = some t ∧ t.id = "app" ∧
        chain.Proposes none t request (.requestParameter "TARGET") "sms" := by
  intro s c d
  have hload : Config.load s.files (Path.parse "c.json") = .ok c := by cbv
  have hlogs : Logs.configure s.homes s.now c.logging { files := s.files } =
      ({ files := s.files }, .ok false) := rfl
  obtain ⟨chain, request, hchain, -, hends, htarget, -⟩ :=
    dry_run_target_iff (ofArguments_beside _ d) hload (.nobody rfl rfl) hlogs
  have hother : c.methodParameter ≠ "service" := by decide
  exact ⟨hload, chain, request, hchain, hends,
    (htarget "app" "sms" rfl (by decide) rfl (by decide)).mpr (Or.inl hother)⟩

/-- The parameter for methods is the one that names services. Without a service, the method is
taken for one and required; with a service, it is the target instead of that. -/
theorem method_taken_for_service :
    let s := beside ("\x7b\"authentication_methods\": [\x7b\"name\": \"sms\", \"rank\": 1\x7d]," ++
      "\"authn_method_parameter\": \"service\"\x7d")
    let c : Config := { methods := [⟨"sms", 1⟩], methodParameter := "service" }
    let alone : DryRun := { method := some "sms" }
    let both : DryRun := { service := some "app", method := some "sms" }
    Config.load s.files (Path.parse "c.json") = .ok c ∧
      (s.run (alone.arguments "c.json")).exitCode = 0 ∧
      (s.run (alone.arguments "c.json")).output =
        Text.ofString "✓ MFA required: sms\n  Rank: 1\n  Source: request_parameter\n" ∧
      (both.request c none s.requestId).target? ProtocolArguments.standard =
        some { id := "sms" } := by
  intro s c alone both
  have hload : Config.load s.files (Path.parse "c.json") = .ok c := by cbv
  exact ⟨hload, by decide +kernel, by decide +kernel, rfl⟩

end Surroundings

end StepUp
