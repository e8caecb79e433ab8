import StepUp.CommandLine.Run
import StepUp.Proofs.Chain.Ending
import StepUp.Proofs.CommandLine.DryRun
import StepUp.Proofs.CommandLine.Invocation
import StepUp.Proofs.CommandLine.Style

/-!
# How a dry run ends

A dry run hands the login that its options make up to the chain of its configuration and tells what
comes of it: `Surroundings.Concludes` has the exit code and the text that is printed for each way
in which a resolution can end. The request is a new one, so that nothing is ever suppressed for it
(`Chain.not_suppressed`). `Surroundings.dry_run_faithful` puts this together with the options that
do not make up a login.

The name of a method is printed as it is where colours are wanted. Where they are not, what looks
like a control sequence in the name is taken out together with the styles around it
(`Surroundings.control_sequence_unprinted`).
-/

namespace StepUp

namespace Config

variable {c : Config}

theorem valid_of_ofText {path source : Text} (h : ofText path source = .ok c) : c.Valid := by
  rw [ofText] at h
  split at h
  · cases h
  · cases h
  · next document _ =>
    cases hcheck : check document with
    | error issues =>
      rw [hcheck] at h
      cases h
    | ok accepted =>
      rw [hcheck] at h
      cases h
      exact valid_of_check hcheck

theorem valid_of_ofOctets {path : Text} {octets : List UInt8}
    (h : ofOctets path octets = .ok c) : c.Valid := by
  rw [ofOctets] at h
  split at h
  · cases h
  · exact valid_of_ofText h

/-- A configuration that is loaded was accepted by validation. -/
theorem valid_of_load {files : FileTree} {path : Path} (h : load files path = .ok c) :
    c.Valid := by
  rw [load] at h
  split at h
  · cases h
  · cases h
  · split at h
    · cases h
    · exact valid_of_ofOctets h

end Config

/-- Nothing is suppressed for a request that is not marked. -/
theorem Chain.not_suppressed {chain : Chain} {a : Option Authentication}
    {target : Option TargetService} {c : RequestContext} {e : AuditEvent}
    (unmarked : c.marker = false) (he : (chain.resolve a target c).event = some e) :
    e.outcome ≠ .suppressed := by
  have hends := chain.ends_resolve a target c
  have hevent : (chain.resolve a target c).ending.event = some e := he
  generalize (chain.resolve a target c).ending = x at hends hevent
  cases hends with
  | suppressed _ _ _ marked =>
    rw [unmarked] at marked
    cases marked
  | unregistered => cases hevent
  | _ =>
    cases hevent
    nofun

namespace Surroundings

variable (s : Surroundings)

/-! ## What is printed -/

/-- A text as it is printed: where colours are not wanted, without control sequences. -/
def printed (t : Text) : Text := if s.colors then t else Style.strip t

def styled (style : Style) (t : Text) : Text := if s.colors then style.apply t else t

/-- A line with a label and a value. -/
def labelled (name value : Text) : Text :=
  "  " ++ s.styled .label (name ++ ":") ++ " " ++ value ++ "\n"

/-- The lines that tell a requirement. -/
def telling (q : Requirement) : Text :=
  s.styled .success ("✓ MFA required: " ++ s.printed q.method.name) ++ "\n"
    ++ s.labelled "Rank" (Text.ofInt q.method.rank) ++ s.labelled "Source" q.source.text

theorem line_apply (style : Style) (t : Text) :
    s.line (style.apply t) = s.styled style (s.printed t) ++ "\n" := by
  cases hcolors : s.colors with
  | true => simp [line, styled, printed, hcolors]
  | false => simp [line, styled, printed, hcolors, Style.strip_apply]

theorem printed_append {t : Text} (h : Style.Unescaped t) (u : Text) :
    s.printed (t ++ u) = t ++ s.printed u := by
  cases hcolors : s.colors with
  | true => simp [printed, hcolors]
  | false => simp [printed, hcolors, h.strip_append]

theorem line_label {name value : Text} (hname : Style.Unescaped (name ++ ":"))
    (hvalue : Style.Unescaped value) :
    s.line ("  " ++ label name ++ " " ++ value) = s.labelled name value := by
  have hblanks : Style.Unescaped "  " := by decide
  have hblank : Style.Unescaped " " := by decide
  cases hcolors : s.colors with
  | true => simp [line, labelled, styled, label, hcolors]
  | false =>
    have hrest : Style.strip (" " ++ value) = " " ++ value :=
      Style.strip_of_unescaped (hblank.append hvalue)
    rw [line, hcolors, label, List.append_assoc, List.append_assoc, if_neg Bool.false_ne_true,
      hblanks.strip_append, Style.strip_apply_append, hrest, Style.strip_of_unescaped hname]
    simp [labelled, styled, hcolors]

theorem output_requirement (q : Requirement) :
    (s.answered (.ok (some q))).output = s.telling q := by
  have hcheck : Style.Unescaped "✓ MFA required: " := by decide
  have hsource : Style.Unescaped q.source.text := by cases q.source <;> decide
  have hfirst : s.line (success ("MFA required: " ++ q.method.name)) =
      s.styled .success ("✓ MFA required: " ++ s.printed q.method.name) ++ "\n" := by
    rw [success, line_apply, ← s.printed_append hcheck]
    rfl
  have hrank := s.line_label (by decide : Style.Unescaped ("Rank" ++ ":"))
    (Style.unescaped_of_plain (Text.plain_ofInt q.method.rank))
  have hlast := s.line_label (by decide : Style.Unescaped ("Source" ++ ":")) hsource
  simp only [answered, succeed, List.flatMap_cons, List.flatMap_nil, List.append_nil]
  rw [hfirst, hrank, hlast, telling, ← List.append_assoc]

theorem output_nothing :
    (s.answered (.ok none)).output = s.styled .faint "No MFA required." ++ "\n" := by
  have hplain : Style.Unescaped "No MFA required." := by decide
  have hprinted : s.printed "No MFA required." = Text.ofString "No MFA required." := by
    have hnil : s.printed [] = [] := by
      rw [printed]
      split <;> rfl
    simpa [hnil] using s.printed_append hplain []
  simp only [answered, succeed, List.flatMap_cons, List.flatMap_nil, List.append_nil]
  rw [line_apply, hprinted]

/-! ## How a dry run ends -/

/-- What the answer of a resolution makes of a run: the exit code and what is printed. -/
inductive Concludes (r : Resolution) (result : RunResult) : Prop
  | required {q : Requirement} (answer : r.answer = .ok (some q)) (code : result.exitCode = 0)
      (output : result.output = s.telling q)
  | nothing (answer : r.answer = .ok none)
      (unsuppressed : ∀ e, r.event = some e → e.outcome ≠ .suppressed)
      (code : result.exitCode = 0)
      (output : result.output = s.styled .faint "No MFA required." ++ "\n")
  | rejected {x : Rejection} (answer : r.answer = .error (.rejected x))
      (code : result.exitCode = 2) (output : result.output = [])
  | failed {reason : Text} (answer : r.answer = .error (.failed reason))
      (code : result.exitCode = 1) (output : result.output = [])

theorem concludes_answered {chain : Chain} {a : Option Authentication}
    {target : Option TargetService} {request : RequestContext} (unmarked : request.marker = false)
    (logs : Logs) : s.Concludes (chain.resolve a target request)
      (afterLogs logs (s.answered (chain.resolve a target request).answer)) := by
  cases hanswer : (chain.resolve a target request).answer with
  | ok required =>
    cases required with
    | none =>
      exact .nothing hanswer (fun e he => Chain.not_suppressed unmarked he) rfl s.output_nothing
    | some q => exact .required hanswer rfl (s.output_requirement q)
  | error f =>
    cases f with
    | rejected x => exact .rejected hanswer rfl rfl
    | failed reason => exact .failed hanswer rfl rfl

variable {s} {arguments : List Text} {path : Text} {d : DryRun} {c : Config} {logs : Logs}
  {audited : Bool}

theorem run_of_refused {f : UsageFault}
    (hargs : Invocation.ofArguments s.scope arguments = .ok (.resolve path d))
    (hload : Config.load s.files (Path.parse path) = .ok c) (hf : d.authentication? = .error f) :
    s.run arguments = s.refused (.usage .resolve f) := by
  simp only [run, hargs, invoke, runResolve, withConfig, hload, hf]

/-- A dry run whose options make up a login does what the configured chain does. -/
theorem run_of_accepted {a : Option Authentication}
    (hargs : Invocation.ofArguments s.scope arguments = .ok (.resolve path d))
    (hload : Config.load s.files (Path.parse path) = .ok c) (ha : d.authentication? = .ok a)
    (hlogs : Logs.configure s.homes s.now c.logging { files := s.files } = (logs, .ok audited)) :
    ∃ chain, Chain.ofConfig? c (.ofList c.services) (some (DryRun.store a)) = .ok chain ∧
      s.run arguments = afterLogs (s.logged (d.resolution c chain a s.requestId) logs)
        (s.answered (d.resolution c chain a s.requestId).answer) := by
  have hchain := (Config.valid_of_load hload).ofConfig?_eq (.ofList c.services)
    (some (DryRun.store a))
  refine ⟨_, hchain, ?_⟩
  simp only [run, hargs, invoke, runResolve, withConfig, hload, ha, runResolution, hlogs, hchain]

/-- **What a dry run tells.** Take arguments that ask for a dry run, and a file with a valid
configuration. Options that do not go together are refused before anything else is done.
Otherwise, where the logs can be set up, the run ends as the resolution of a new request does: the
login that the options make up is passed to the configured chain and is the only one in its store,
behind the ticket that the request has in its scope. A requirement is printed with its method, its
rank and its source; that there is none is printed too, and is never due to a rejection that was
suppressed; a rejection and a failure have exit codes of their own. -/
theorem dry_run_faithful
    (hargs : Invocation.ofArguments s.scope arguments = .ok (.resolve path d))
    (hload : Config.load s.files (Path.parse path) = .ok c) :
    (d.Contradictory → ∃ f, s.run arguments = s.refused (.usage .resolve f) ∧
      (s.run arguments).exitCode = 2 ∧ (s.run arguments).output = [] ∧
      (s.run arguments).files = s.files) ∧
    (¬ d.Contradictory → ∀ logs audited,
      Logs.configure s.homes s.now c.logging { files := s.files } = (logs, .ok audited) →
      ∃ a store request chain, d.LoggedIn a ∧
        (∀ ticket, store.find ticket = .ok (if ticket = DryRun.ticket then a else none)) ∧
        d.Poses c a request ∧
        Chain.ofConfig? c (.ofList c.services) (some store) = .ok chain ∧
        s.Concludes (chain.resolve a (request.target? ProtocolArguments.standard) request)
          (s.run arguments) ∧
        (s.run arguments).obstacle = none) := by
  constructor
  · intro hcontradictory
    cases ha : d.authentication? with
    | ok a =>
      exact absurd hcontradictory (DryRun.authentication?_eq_ok_iff.mp ha).not_contradictory
    | error f =>
      have hrun := run_of_refused hargs hload ha
      rw [hrun]
      exact ⟨f, rfl, rfl, rfl, rfl⟩
  · intro hconsistent logs audited hlogs
    obtain ⟨a, ha⟩ := DryRun.exists_authentication?_iff.mpr hconsistent
    obtain ⟨chain, hchain, hrun⟩ := run_of_accepted hargs hload ha hlogs
    refine ⟨a, DryRun.store a, d.request c a s.requestId, chain,
      DryRun.authentication?_eq_ok_iff.mp ha, ?_, d.poses_request c a s.requestId, hchain, ?_, ?_⟩
    · intro ticket
      cases a with
      | none => simp [DryRun.store, AuthenticationStore.ofList]
      | some u =>
        show Except.ok ([(DryRun.ticket, u)].lookup ticket) = _
        rw [Session.lookup_cons_eq_ite, List.lookup_nil]
    · rw [hrun]
      exact concludes_answered s rfl _
    · rw [hrun]
      cases hanswer : (d.resolution c chain a s.requestId).answer with
      | ok required => cases required <;> rfl
      | error f => cases f <;> rfl

/-- A program without colours beside a file `c.json`. -/
def beside (source : Text) : Surroundings where
  files := { entries := [(["c.json"], .file (Utf8.encode source))] }
  configPath := none
  homes := { own := "/root", ofUser := fun _ => none }
  now := ⟨0⟩
  requestId := "r1"
  colors := false

theorem ofArguments_beside (source : Text) (d : DryRun) :
    Invocation.ofArguments (beside source).scope (d.arguments "c.json") =
      .ok (.resolve "c.json" d) :=
  Invocation.ofArguments_arguments d rfl

/-- Ann has two values for one attribute, one of them empty, and a value with an `=` for
another. -/
theorem dry_run_faithful_grouped :
    let s := beside ("\x7b\"authentication_methods\": [\x7b\"name\": \"sms\", \"rank\": 1\x7d]," ++
      "\"principal_method_attribute\": \"mfa\"\x7d")
    let c : Config := { methods := [⟨"sms", 1⟩], principalMethodAttribute := some "mfa" }
    let d : DryRun :=
      { service := some "app", principal := some "ann"
        attributes := ["mfa=sms", "team=a=b", "mfa="] }
    let ann : Authentication :=
      ⟨⟨"ann", [("mfa", .arr [.str "sms", .str ""]), ("team", .arr [.str "a=b"])]⟩⟩
    Config.load s.files (Path.parse "c.json") = .ok c ∧ ¬ d.Contradictory ∧
      ∃ store request chain, d.Poses c (some ann) request ∧
        Chain.ofConfig? c (.ofList c.services) (some store) = .ok chain ∧
        s.Concludes (chain.resolve (some ann) (request.target? ProtocolArguments.standard) request)
          (s.run (d.arguments "c.json")) := by
  intro s c d ann
  have hload : Config.load s.files (Path.parse "c.json") = .ok c := by cbv
  have hann : d.authentication? = .ok (some ann) := rfl
  have hconsistent : ¬ d.Contradictory :=
    (DryRun.authentication?_eq_ok_iff.mp hann).not_contradictory
  have hlogs : Logs.configure s.homes s.now c.logging { files := s.files } =
      ({ files := s.files }, .ok false) := rfl
  obtain ⟨a, store, request, chain, hlogin, -, hposes, hchain, hends, -⟩ :=
    (dry_run_faithful (ofArguments_beside _ d) hload).2 hconsistent _ _ hlogs
  have ha : a = some ann :=
    Except.ok.inj ((DryRun.authentication?_eq_ok_iff.mpr hlogin).symm.trans hann)
  subst ha
  exact ⟨hload, hconsistent, store, request, chain, hposes, hchain, hends⟩

/-- A method whose name begins like a control sequence is required, and another name printed. -/
theorem control_sequence_unprinted :
    let s := beside
      "\x7b\"authentication_methods\": [\x7b\"name\": \"\\u001b[1msms\", \"rank\": 1\x7d]\x7d"
    let m : Method := ⟨Style.escape :: "[1msms", 1⟩
    let c : Config := { methods := [m] }
    let d : DryRun := { service := some "app", method := some m.name }
    Config.load s.files (Path.parse "c.json") = .ok c ∧ d.LoggedIn none ∧
      ∃ chain, Chain.ofConfig? c (.ofList c.services) (some (DryRun.store none)) = .ok chain ∧
        (d.resolution c chain none s.requestId).answer = .ok (some ⟨m, .requestParameter⟩) ∧
        (s.run (d.arguments "c.json")).exitCode = 0 ∧
        (s.run (d.arguments "c.json")).output =
          Text.ofString "✓ MFA required: sms\n  Rank: 1\n  Source: request_parameter\n" ∧
        ¬ m.name <:+: (s.run (d.arguments "c.json")).output := by
  intro s m c d
  have hload : Config.load s.files (Path.parse "c.json") = .ok c := by cbv
  have hchain := (Config.valid_of_load hload).ofConfig?_eq (.ofList c.services)
    (some (DryRun.store none))
  have houtput : (s.run (d.arguments "c.json")).output =
      Text.ofString "✓ MFA required: sms\n  Rank: 1\n  Source: request_parameter\n" := by
    decide +kernel
  refine ⟨hload, .nobody rfl rfl, _, hchain, rfl, by decide +kernel, houtput, ?_⟩
  rw [houtput]
  decide +kernel

end Surroundings

end StepUp
