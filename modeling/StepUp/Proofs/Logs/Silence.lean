import StepUp.Proofs.Logs.Run

/-!
# A failed configuration and the audit log

A configuration that fails should leave the audit log as it was. It does, whether the home
directory is unknown, a directory cannot be made or the file of the system log cannot be opened: all
this comes before the audit log is touched. But the audit log is detached from its file before the
new audit file is opened. When that cannot be opened, events that are accepted afterwards are
written nowhere, and nobody is told (`Logs.failed_configuration_silences_iff`).

`Logs.unopened_audit_file_silences` is a run where this happens: a log directory is named whose
audit file is the log directory of an earlier configuration.
-/

namespace StepUp.Logs

variable {l l' : Logs} {homes : Homes} {p : Path} {c : LoggingConfig} {f : LogFault}
  {later : List (Instant × LogStep)}

/-- The events that are handed to the audit log. -/
def handed (steps : List (Instant × LogStep)) : List (Instant × AuditEvent) :=
  steps.filterMap fun s => match s.2 with
    | .audit e => some (s.1, e)
    | _ => none

/-- No step names a log directory or breaks the audit log. -/
def Quiet (steps : List (Instant × LogStep)) : Prop := ∀ s ∈ steps, s.2.redirects = false

/-- While no other log directory is named, the events that are handed over are appended to the file,
each once and in order, and nothing else is. -/
def Delivers (homes : Homes) (l : Logs) (p : Path) : Prop :=
  ∀ later, Quiet later → (l.after homes later).files.node? p.place =
    some (.file (l.files.contents p.place ++ AuditEvent.lines (handed later)))

/-- While no log directory is named, an event that is handed over is accepted and changes nothing:
it is in no file and not on the console. -/
def Silent (homes : Homes) (l : Logs) : Prop :=
  ∀ later, Quiet later → ∀ now e,
    (l.after homes later).step homes now (.audit e) = (l.after homes later, .ok .done)

/-- The error tells that the audit file of the configuration cannot be opened. -/
def AuditUnopened (homes : Homes) (c : LoggingConfig) (f : LogFault) : Prop :=
  ∃ q ∈ c.auditPath? homes, ∃ e, f = .file (.system e q.text)

/-! ## Quiet steps -/

theorem undisturbed_of_quiet (h : Quiet later) : Undisturbed homes l later := by
  induction later generalizing l with
  | nil =>
    intro q hq
    cases hq
  | cons st rest ih =>
    obtain ⟨now, s⟩ := st
    obtain ⟨hs, hrest⟩ := List.forall_mem_cons.mp h
    refine undisturbed_cons.mpr ⟨?_, ih hrest⟩
    cases s with
    | configure c =>
      rw [step, configure_of_no_directory (logDir_of_redirects hs)]
      rfl
    | breakAudit error => cases hs
    | system level m => rfl
    | audit e => rfl

theorem sent_of_quiet (h : Quiet later) :
    sent homes p.place (some p) later = handed later := by
  induction later with
  | nil => rfl
  | cons st rest ih =>
    obtain ⟨now, s⟩ := st
    obtain ⟨hs, hrest⟩ := List.forall_mem_cons.mp h
    cases s with
    | configure c =>
      have hpath : c.auditPath? homes = none := by
        rw [LoggingConfig.auditPath?, LoggingConfig.directory?, logDir_of_redirects hs]
      have hcons : sent homes p.place (some p) ((now, .configure c) :: rest) =
          sent homes p.place ((c.auditPath? homes).or (some p)) rest := rfl
      rw [hcons, hpath, Option.none_or, ih hrest]
      rfl
    | breakAudit error => cases hs
    | system level m => exact ih hrest
    | audit e =>
      have hcons : sent homes p.place (some p) ((now, .audit e) :: rest) =
          [(now, e)] ++ sent homes p.place (some p) rest := by
        rw [sent, Option.map_some, if_pos rfl]
        rfl
      rw [hcons, ih hrest]
      rfl

theorem audit_after (h : l.Sound) (homes : Homes) (hlater : Quiet later) :
    (l.after homes later).audit = l.audit ∧ (l.after homes later).auditFile = l.auditFile := by
  induction later generalizing l with
  | nil => exact ⟨rfl, rfl⟩
  | cons st rest ih =>
    obtain ⟨now, s⟩ := st
    obtain ⟨hs, hrest⟩ := List.forall_mem_cons.mp hlater
    obtain ⟨haudit, hfile⟩ := audit_step h homes now hs
    obtain ⟨haudit', hfile'⟩ := ih (continues_step h homes now s).sound hrest
    rw [after_cons]
    exact ⟨haudit'.trans haudit, hfile'.trans hfile⟩

/-! ## Delivery and silence -/

theorem delivers_of_auditPath? (h : l.Sound) (hp : l.auditPath? = some p) (homes : Homes) :
    l.Delivers homes p := by
  intro later hlater
  have hfollows := follows_of_auditPath? hp
  have hquiet : Undisturbed homes l later := undisturbed_of_quiet hlater
  have hcontinues := continues_after h hfollows hquiet
  have hholds := h.holds hp
  rw [(hcontinues.grown.hasFile hholds.1).there,
    hcontinues.contents p.place hholds.not_system, sent_of_quiet hlater]

theorem silent_of_detached (h : l.Sound) (haudit : l.audit = some .file)
    (hfile : l.auditFile = none) (homes : Homes) : l.Silent homes := by
  intro later hlater now e
  obtain ⟨haudit', hfile'⟩ := audit_after h homes hlater
  rw [step, tell, haudit', haudit]
  dsimp only
  rw [hfile', hfile]

/-- What is silent does not deliver: one event is enough to tell. -/
theorem Silent.not_delivers (h : l.Silent homes) : ¬ l.Delivers homes p := by
  intro hdelivers
  let e : AuditEvent := { outcome := .noMfa, requestId := [] }
  let now : Instant := ⟨0⟩
  have hnone : Quiet [] := List.forall_mem_nil _
  have hone : Quiet [(now, .audit e)] := List.forall_mem_singleton.mpr rfl
  have hstep : l.step homes now (.audit e) = (l, .ok .done) := h [] hnone now e
  have hsame : l.after homes [(now, .audit e)] = l := by
    rw [after_cons, hstep]
    rfl
  -- the logs are the same with and without the event, so its line would have to be empty
  have hbefore := hdelivers [] hnone
  have hafter := hdelivers _ hone
  rw [hsame, ← after_nil homes l, hbefore, after_nil] at hafter
  injection hafter with hafter
  injection hafter with hoctets
  have hlines := List.append_cancel_left hoctets
  have hpieces := congrArg (fun octets => (octets.splitOn 0x0A).length) hlines
  simp only [AuditEvent.splitOn_lines] at hpieces
  cases hpieces

/-- **A failed configuration and the audit log.** Let the audit log work and be attached to a file
after some run, and let a configuration fail then. The file has what it had, and the audit log goes
on delivering events to it as it would have done unless the error is that the new audit file
cannot be opened; in that case it is silent from then on. -/
theorem failed_configuration_silences_iff (homes : Homes) (files : FileTree)
    (steps : List (Instant × LogStep)) (now : Instant) (c : LoggingConfig) {p : Path} {l' : Logs}
    {f : LogFault} (working : (after homes { files := files } steps).auditPath? = some p)
    (failed : (after homes { files := files } steps).configure homes now c = (l', .error f)) :
    let l := after homes { files := files } steps
    l.Delivers homes p ∧ l'.files.contents p.place = l.files.contents p.place ∧
      (l'.Delivers homes p ↔ ¬ AuditUnopened homes c f) ∧
      (AuditUnopened homes c f → l'.Silent homes) := by
  intro l
  have hsound : l.Sound := sound_after (sound_start files) homes steps
  have hplace := (hsound.holds working).not_system
  refine ⟨delivers_of_auditPath? hsound working homes, ?_⟩
  have hcases := configured hsound homes now c
  rw [failed] at hcases
  cases hcases with
  | refused hkeeps hf =>
    have hopened : ¬ AuditUnopened homes c f := by
      rintro ⟨q, hq, e, he⟩
      exact hf q hq e he
    have hdelivers := delivers_of_auditPath? hkeeps.sound (hkeeps.auditPath?.trans working) homes
    exact ⟨hkeeps.contents p.place hplace, ⟨fun _ => hopened, fun _ => hdelivers⟩,
      fun hunopened => absurd hunopened hopened⟩
  | @detached l₁ q e hq hkeeps =>
    have hunopened : AuditUnopened homes c (.file (.system e q.text)) := ⟨q, hq, e, rfl⟩
    have haudit : l₁.audit = some .file := hkeeps.audit.trans (follows_of_auditPath? working).audit
    have hsilent : Silent homes { l₁ with auditFile := none } :=
      silent_of_detached hkeeps.sound.detach haudit rfl homes
    refine ⟨hkeeps.contents p.place hplace, ⟨?_, ?_⟩, fun _ => hsilent⟩
    · intro hdelivers
      exact absurd hdelivers hsilent.not_delivers
    · intro hopened
      exact absurd hunopened hopened

/-- A log directory below a file cannot be made: the audit log goes on with its file. -/
theorem failed_configuration_silences_iff_blocked :
    let homes : Homes := ⟨"/root", fun _ => none⟩
    let now : Instant := ⟨0⟩
    let l := after homes { files := { entries := [(["f"], .file [])] } }
      [(now, .configure { logDir := some "logs" })]
    let failed := l.configure homes now { logDir := some "f" }
    l.auditPath? = some (Path.parse "logs/audit/resolutions.jsonl") ∧
      failed.2 = .error (.noDirectory "f/audit" (.system .notDirectory "f/audit")) ∧
      failed.1.Delivers homes (Path.parse "logs/audit/resolutions.jsonl") := by
  intro homes now l failed
  have working : l.auditPath? = some (Path.parse "logs/audit/resolutions.jsonl") := by
    decide +kernel
  have error : failed.2 = .error (.noDirectory "f/audit" (.system .notDirectory "f/audit")) := by
    decide +kernel
  have hresult : l.configure homes now { logDir := some "f" } = (failed.1, .error _) :=
    Prod.ext rfl error
  obtain ⟨-, -, hiff, -⟩ := failed_configuration_silences_iff homes _ _ now _ working hresult
  refine ⟨working, error, hiff.mpr ?_⟩
  rintro ⟨q, -, e, he⟩
  cases he

/-- The audit file of a configuration is a directory, the log directory of an earlier one. That
configuration fails, and the events that are handed over afterwards are not in the file that the
audit log was attached to. -/
theorem unopened_audit_file_silences :
    let homes : Homes := ⟨"/root", fun _ => none⟩
    let now : Instant := ⟨0⟩
    let first : AuditEvent := { outcome := .noMfa, requestId := "r1" }
    let second : AuditEvent := { outcome := .noMfa, requestId := "r2" }
    let p := Path.parse "logs/audit/resolutions.jsonl"
    let l := after homes { files := {} }
      [(now, .configure { logDir := some "/tmp/step-up-probe/audit/resolutions.jsonl" }),
        (now, .configure { logDir := some "logs" }), (now, .audit first)]
    let failed := l.configure homes now { logDir := some "/tmp/step-up-probe" }
    let told := failed.1.step homes now (.audit second)
    l.auditPath? = some p ∧
      failed.2 = .error
        (.file (.system .isDirectory "/tmp/step-up-probe/audit/resolutions.jsonl")) ∧
      told.2 = .ok .done ∧ told.1.files.contents p.place = AuditEvent.lines [(now, first)] ∧
      ¬ failed.1.Delivers homes p := by
  intro homes now first second p l failed told
  have hsound : l.Sound := sound_after (sound_start _) homes _
  have hfailed : failed.1.Sound := (continues_configure hsound homes now _).sound
  have haudit : failed.1.audit = some .file := by decide +kernel
  have hfile : failed.1.auditFile = none := by decide +kernel
  have hsilent : failed.1.Silent homes := silent_of_detached hfailed haudit hfile homes
  have htold : told = (failed.1, .ok .done) := hsilent [] (List.forall_mem_nil _) now second
  have hcontents : failed.1.files.contents p.place = AuditEvent.lines [(now, first)] := by
    decide +kernel
  have hunchanged : told.1 = failed.1 := congrArg Prod.fst htold
  refine ⟨by decide +kernel, by decide +kernel, congrArg Prod.snd htold, ?_, hsilent.not_delivers⟩
  rw [hunchanged]
  exact hcontents

end StepUp.Logs
