import StepUp.Proofs.Logs.Run

/-!
# Warnings and the level of the console

The file of the system log should keep every warning and everything graver, whatever the console is
set to show. It stays the file of the first configuration that attached one, and nothing below a
warning gets there. But a record passes the level of the console before it is handed to the console
and to the file alike, so a file keeps all warnings only as long as the console is set to show them
(`Logs.warnings_kept_iff`).

`Logs.warning_lost` is a run where one is lost: the console is set to show errors only.
-/

namespace StepUp

/-- A record that is handed to the system log. -/
structure SystemEntry where
  time : Instant
  /-- The level of the latest configuration. -/
  threshold : Level
  level : Level
  message : LogMessage

namespace SystemEntry

/-- The console is set to show records of this level. -/
def shown (e : SystemEntry) : Bool := e.level.reaches e.threshold

/-- A warning, or graver. -/
def grave (e : SystemEntry) : Bool := e.level.reaches .warning

def line (e : SystemEntry) : Text := e.message.jsonLine e.time.render

/-- The octets of some records in a file, a line for each. -/
def lines (es : List SystemEntry) : List UInt8 :=
  es.flatMap fun e => Utf8.encode (e.line ++ "\n")

/-- The text of some records on the console. -/
def consoleText (es : List SystemEntry) : Text :=
  es.flatMap fun e => e.message.consoleLine e.level ++ "\n"

/-- Splitting the octets at line breaks gives the lines of the records, one behind the other. -/
theorem splitOn_lines (es : List SystemEntry) :
    (lines es).splitOn 0x0A = (es.map fun e => Utf8.encode e.line) ++ [[]] := by
  have hplain : ∀ t ∈ es.map line, ∀ c ∈ t, c.Plain :=
    List.forall_mem_map.mpr fun e _ => LogMessage.plain_jsonLine _ _
  have hsplit := Utf8.splitOn_lines hplain
  rwa [List.flatMap_map, List.map_map] at hsplit

/-- Of some records the lines of all that are grave are those of all that are grave and shown, if
and only if all that are grave are shown. -/
theorem lines_shown_eq_iff {es : List SystemEntry} :
    lines (es.filter fun e => e.shown && e.grave) = lines (es.filter grave) ↔
      ∀ e ∈ es, e.grave = true → e.shown = true := by
  rw [← List.filter_filter]
  constructor
  · intro h
    have hpieces := congrArg (fun octets => (octets.splitOn 0x0A).length) h
    simp only [splitOn_lines, List.length_append, List.length_map, List.length_singleton,
      Nat.add_right_cancel_iff] at hpieces
    intro e he hgrave
    exact List.length_filter_eq_length_iff.mp hpieces e (List.mem_filter.mpr ⟨he, hgrave⟩)
  · intro h
    rw [List.filter_eq_self.mpr]
    intro e he
    obtain ⟨hmem, hgrave⟩ := List.mem_filter.mp he
    exact h e hmem hgrave

/-- Where only levels are set that a configuration may name, a record is grave and yet not shown
just if it is a warning and the console is set to show errors only. -/
theorem grave_not_shown_iff {e : SystemEntry} (h : e.threshold ∈ LoggingConfig.levels) :
    ¬ (e.grave = true → e.shown = true) ↔ e.level = .warning ∧ e.threshold = .error := by
  obtain ⟨time, threshold, level, message⟩ := e
  revert h
  cases threshold <;> cases level <;> simp [LoggingConfig.levels, grave, shown, Level.reaches,
    Level.severity]

end SystemEntry

/-- The level that a step sets. -/
def LogStep.level? : LogStep → Option Level
  | .configure c => some c.logLevel
  | _ => none

/-- The system file of a configuration, if it names a log directory. -/
def LoggingConfig.systemPath? (homes : Homes) (c : LoggingConfig) : Option Path :=
  match c.directory? homes with
  | .ok (some dir) => some (systemPath dir)
  | _ => none

namespace Logs

open FileTree SystemEntry

variable {l l' : Logs} {homes : Homes} {now : Instant} {c : LoggingConfig} {s : LogStep}
  {p dir : Path} {place : Place} {steps : List (Instant × LogStep)}

/-! ## The records of a step -/

/-- What a configuration tells about the system file: that its directory cannot be made. -/
def refusals (homes : Homes) (l : Logs) (c : LoggingConfig) : List LogRecord :=
  match l.systemFile, c.directory? homes with
  | none, .ok (some dir) =>
    match (makeRoom l.files (dir.append LoggingConfig.systemFile)).2 with
    | .error .nullInPath => []
    | .error f => [unavailable (dir.append LoggingConfig.systemFile).parent.text f]
    | .ok _ => []
  | _, _ => []

/-- What a step hands to the system log, with the level of each record. -/
def loggedBy (homes : Homes) (l : Logs) : LogStep → List (Level × LogMessage)
  | .system level m => [(level, m)]
  | .configure c => (l.refusals homes c).map fun r => (r.level, .ofRecord r)
  | .audit e =>
    match l.audit with
    | some (.broken error) => [(.error, .ofRecord (Delivery.failureRecord e error))]
    | _ => []
  | .breakAudit _ => []

/-- What a run hands to the system log, where `level` was set before. -/
def logged (homes : Homes) : Level → Logs → List (Instant × LogStep) → List SystemEntry
  | _, _, [] => []
  | level, l, (now, s) :: rest =>
    let latest := s.level?.getD level
    (l.loggedBy homes s).map (fun r => ⟨now, latest, r.1, r.2⟩) ++
      logged homes latest (l.step homes now s).1 rest

/-- Records are written: the console gets those that it is set to show, and the system file, if
there is one, the warnings among these. Nothing else is written to a system file. -/
structure Writes (l l' : Logs) (es : List SystemEntry) : Prop where
  console : l'.console = l.console ++ consoleText (es.filter shown)
  file : ∀ p ∈ l.systemFile, l'.systemFile = some p ∧
    l'.files.contents p.place =
      l.files.contents p.place ++ lines (es.filter fun e => e.shown && e.grave)

theorem Writes.nil {l' : Logs} (hconsole : l'.console = l.console)
    (hsystem : ∀ p ∈ l.systemFile, l'.systemFile = some p ∧
      l'.files.contents p.place = l.files.contents p.place) : l.Writes l' [] := by
  refine ⟨?_, fun p hp => ?_⟩
  · rw [hconsole]
    exact (List.append_nil _).symm
  · obtain ⟨hfile, hcontents⟩ := hsystem p hp
    refine ⟨hfile, ?_⟩
    rw [hcontents]
    exact (List.append_nil _).symm

theorem Writes.trans {l'' : Logs} {es es' : List SystemEntry} (h : l.Writes l' es)
    (h' : l'.Writes l'' es') : l.Writes l'' (es ++ es') := by
  refine ⟨?_, fun p hp => ?_⟩
  · rw [h'.console, h.console, List.append_assoc, List.filter_append, consoleText, consoleText,
      consoleText, List.flatMap_append]
  · obtain ⟨hfile, hcontents⟩ := h.file p hp
    obtain ⟨hfile', hcontents'⟩ := h'.file p hfile
    refine ⟨hfile', ?_⟩
    rw [hcontents', hcontents, List.append_assoc, List.filter_append, lines, lines, lines,
      List.flatMap_append]

theorem writes_record (h : l.Sound) (now : Instant) (level : Level) (m : LogMessage) :
    l.Writes (l.record now level m) [⟨now, l.threshold, level, m⟩] := by
  cases hshown : level.reaches l.threshold with
  | false =>
    have hrecord : l.record now level m = l := by
      rw [record, hshown]
      rfl
    rw [hrecord]
    refine ⟨?_, fun p hp => ⟨hp, ?_⟩⟩
    · simp [shown, hshown, consoleText]
    · simp [shown, hshown, lines]
  | true =>
    have hrecord : l.record now level m = (l.fileFor? level).elim
        { l with console := l.console ++ m.consoleLine level ++ "\n" }
        ({ l with console := l.console ++ m.consoleLine level ++ "\n" }.appendLine ·
          (m.jsonLine now.render)) := by
      rw [record, if_pos hshown]
      dsimp only
      split
      · next p hp =>
        rw [show l.fileFor? level = some p from hp]
        rfl
      · next hnone =>
        rw [show l.fileFor? level = none from hnone]
        rfl
    refine ⟨?_, fun p hp => ?_⟩
    · rw [console_record, if_pos hshown]
      simp [shown, hshown, consoleText]
    · have hfile := (h.system p hp).1
      cases hgrave : level.reaches .warning with
      | false =>
        have hnone : l.fileFor? level = none := by
          rw [fileFor?, hgrave]
          rfl
        rw [hrecord, hnone]
        exact ⟨hp, by simp [grave, hgrave, lines]⟩
      | true =>
        have hsome : l.fileFor? level = some p := by
          rw [fileFor?, hgrave]
          exact hp
        have hlines : lines ([⟨now, l.threshold, level, m⟩].filter fun e => e.shown && e.grave) =
            Utf8.encode (m.jsonLine now.render ++ "\n") := by
          simp [grave, shown, hgrave, hshown, lines, line]
        rw [hrecord, hsome, hlines]
        exact ⟨hp, hfile.contents_append _⟩

/-! ## Steps -/

theorem writes_prepared (hfiles : l.files.Prepares l'.files) (hconsole : l'.console = l.console)
    (hsystem : l'.systemFile = l.systemFile) : l.Writes l' [] :=
  .nil hconsole fun p hp => ⟨hsystem.trans hp, hfiles.same p.place⟩

/-- Attaching the audit log writes nothing. -/
theorem writes_attachAuditFile (l : Logs) (dir : Path) :
    l.Writes (l.attachAuditFile (dir.append LoggingConfig.auditFile)).1 [] := by
  obtain ⟨f, files, hfiles, -, hresult⟩ | ⟨e, files, hfiles, hresult⟩ | ⟨files, hfiles, -, hresult⟩ :=
    attachAuditFile_cases l dir
  · rw [hresult]
    exact writes_prepared hfiles rfl rfl
  · rw [hresult]
    exact writes_prepared hfiles rfl rfl
  · rw [hresult]
    exact writes_prepared hfiles rfl rfl

/-- What attaching the system log hands to it. -/
theorem writes_attachSystemFile (h : l.Sound) (hdir : c.directory? homes = .ok (some dir))
    (now : Instant) :
    l.Writes (l.attachSystemFile now (dir.append LoggingConfig.systemFile)).1
      ((l.refusals homes c).map fun r => ⟨now, l.threshold, r.level, .ofRecord r⟩) := by
  have hroom := prepares_makeRoom l.files (dir.append LoggingConfig.systemFile)
  unfold attachSystemFile
  split
  · next q hq =>
    have hnone : l.refusals homes c = [] := by
      unfold refusals
      rw [hq]
    rw [hnone]
    exact .nil rfl fun p hp => ⟨hp, rfl⟩
  · next hnone =>
    have hrefusals : l.refusals homes c =
        match (makeRoom l.files (dir.append LoggingConfig.systemFile)).2 with
        | .error .nullInPath => []
        | .error f => [unavailable (dir.append LoggingConfig.systemFile).parent.text f]
        | .ok _ => [] := by
      unfold refusals
      rw [hnone, hdir]
    rw [hrefusals]
    split
    · next hresult =>
      rw [hresult] at hroom ⊢
      exact writes_prepared hroom rfl rfl
    · next made f hf hresult =>
      rw [hresult] at hroom ⊢
      cases f with
      | nullInPath => exact absurd rfl hf
      | system e q =>
        have hmade : l.Writes { l with files := made } [] := writes_prepared hroom rfl rfl
        exact hmade.trans (writes_record (keeps_files h hroom).sound _ _ _)
    · next made hresult =>
      rw [hresult] at hroom ⊢
      split
      · exact writes_prepared hroom rfl rfl
      · exact ⟨(List.append_nil _).symm, fun p hp => absurd (hnone ▸ hp) (Option.not_mem_none p)⟩

theorem writes_configure (h : l.Sound) (homes : Homes) (now : Instant) (c : LoggingConfig) :
    l.Writes (l.configure homes now c).1
      ((l.refusals homes c).map fun r => ⟨now, c.logLevel, r.level, .ofRecord r⟩) := by
  have hthreshold : l.Writes { l with threshold := c.logLevel } [] :=
    .nil rfl fun p hp => ⟨hp, rfl⟩
  have hkeeps := keeps_threshold h c.logLevel
  have hrefusals : refusals homes { l with threshold := c.logLevel } c = l.refusals homes c := rfl
  unfold configure
  dsimp only
  split
  · next f hf =>
    have hnone : l.refusals homes c = [] := by
      unfold refusals
      rw [hf]
      cases l.systemFile <;> rfl
    rw [hnone]
    exact hthreshold
  · next hnone =>
    have hnone : l.refusals homes c = [] := by
      unfold refusals
      rw [hnone]
      cases l.systemFile <;> rfl
    rw [hnone]
    exact hthreshold
  · next dir hdir =>
    have hsystem := hthreshold.trans (writes_attachSystemFile hkeeps.sound hdir now)
    rw [hrefusals] at hsystem
    split
    · next l' f hresult =>
      rw [hresult] at hsystem
      exact hsystem
    · next l' hresult =>
      rw [hresult] at hsystem
      have hall := hsystem.trans (writes_attachAuditFile l' dir)
      rwa [List.append_nil] at hall

/-- What a step hands to the system log is written. -/
theorem writes_step (h : l.Sound) (homes : Homes) (now : Instant) (s : LogStep) :
    l.Writes (l.step homes now s).1 ((l.loggedBy homes s).map fun r =>
      ⟨now, s.level?.getD l.threshold, r.1, r.2⟩) := by
  cases s with
  | configure c =>
    rw [loggedBy, List.map_map]
    exact writes_configure h homes now c
  | system level m => exact writes_record h now level m
  | breakAudit error => exact .nil rfl fun p hp => ⟨hp, rfl⟩
  | audit e =>
    unfold step loggedBy tell
    dsimp only
    cases l.audit with
    | none => exact .nil rfl fun p hp => ⟨hp, rfl⟩
    | some target =>
      cases target with
      | broken error => exact writes_record h now _ _
      | file =>
        dsimp only
        cases haudit : l.auditFile with
        | none => exact .nil rfl fun p hp => ⟨hp, rfl⟩
        | some q =>
          obtain ⟨hfile, hname⟩ := h.audit q haudit
          refine .nil rfl fun p hp => ⟨hp, hfile.contents_append_of_ne _ ?_⟩
          -- the audit file is no system file
          rintro hsame
          have hsystem := (h.system p hp).2
          rw [hsame, hname] at hsystem
          exact absurd hsystem (by decide)

/-! ## The level of the console -/

theorem threshold_attachSystemFile (l : Logs) (now : Instant) (p : Path) :
    (l.attachSystemFile now p).1.threshold = l.threshold := by
  unfold attachSystemFile
  split
  · rfl
  · split
    · rfl
    · exact threshold_record _ _ _ _
    · split <;> rfl

theorem threshold_attachAuditFile (l : Logs) (p : Path) :
    (l.attachAuditFile p).1.threshold = l.threshold := by
  unfold attachAuditFile
  split
  · rfl
  · rfl
  · split <;> rfl

theorem threshold_configure (homes : Homes) (l : Logs) (now : Instant) (c : LoggingConfig) :
    (l.configure homes now c).1.threshold = c.logLevel := by
  unfold configure
  dsimp only
  split
  · rfl
  · rfl
  · next dir _ =>
    have hsystem := threshold_attachSystemFile { l with threshold := c.logLevel } now
      (dir.append LoggingConfig.systemFile)
    split
    · next hresult =>
      rw [hresult] at hsystem
      exact hsystem
    · next hresult =>
      rw [hresult] at hsystem
      exact (threshold_attachAuditFile _ _).trans hsystem

/-- The console shows from the level on that was set last. -/
theorem threshold_step (homes : Homes) (l : Logs) (now : Instant) (s : LogStep) :
    (l.step homes now s).1.threshold = s.level?.getD l.threshold := by
  cases s with
  | configure c => exact threshold_configure homes l now c
  | system level m => exact threshold_record now level m l
  | breakAudit error => rfl
  | audit e =>
    unfold step tell
    dsimp only
    cases l.audit with
    | none => rfl
    | some target =>
      cases target with
      | broken error => exact threshold_record now _ _ l
      | file =>
        dsimp only
        cases l.auditFile <;> rfl

/-! ## Runs -/

theorem after_append (homes : Homes) (l : Logs) (before later : List (Instant × LogStep)) :
    l.after homes (before ++ later) = (l.after homes before).after homes later := by
  induction before generalizing l with
  | nil => rfl
  | cons st rest ih =>
    obtain ⟨now, s⟩ := st
    rw [List.cons_append, after_cons, after_cons, ih]

/-- What a run hands to the system log is written. -/
theorem writes_after (h : l.Sound) (homes : Homes) (steps : List (Instant × LogStep)) :
    l.Writes (l.after homes steps) (logged homes l.threshold l steps) := by
  induction steps generalizing l with
  | nil => exact .nil rfl fun p hp => ⟨hp, rfl⟩
  | cons st rest ih =>
    obtain ⟨now, s⟩ := st
    have hrest := ih (continues_step h homes now s).sound
    rw [threshold_step] at hrest
    rw [after_cons]
    exact (writes_step h homes now s).trans hrest

/-- Each record comes with a level that was set before it. -/
theorem threshold_mem_of_mem_logged (homes : Homes) (l : Logs) {allowed : List Level}
    {level : Level} (h : ∀ s ∈ steps, ∀ x ∈ s.2.level?, x ∈ allowed) (hlevel : level ∈ allowed) :
    ∀ e ∈ logged homes level l steps, e.threshold ∈ allowed := by
  induction steps generalizing l level with
  | nil => exact fun e he => absurd he List.not_mem_nil
  | cons st rest ih =>
    obtain ⟨now, s⟩ := st
    obtain ⟨hs, hrest⟩ := List.forall_mem_cons.mp h
    have hlatest : s.level?.getD level ∈ allowed := by
      cases hs' : s.level? with
      | none => exact hlevel
      | some x => exact hs x hs'
    rw [logged]
    refine List.forall_mem_append.mpr ⟨List.forall_mem_map.mpr fun r _ => hlatest, ?_⟩
    exact ih _ hrest hlatest

/-! ## The system file -/

theorem systemFile_attachAuditFile (l : Logs) (dir : Path) :
    (l.attachAuditFile (dir.append LoggingConfig.auditFile)).1.systemFile = l.systemFile := by
  obtain ⟨f, files, -, -, hresult⟩ | ⟨e, files, -, hresult⟩ | ⟨files, -, -, hresult⟩ :=
    attachAuditFile_cases l dir
  · rw [hresult]
  · rw [hresult]
  · rw [hresult]

theorem systemFile_record (now : Instant) (level : Level) (m : LogMessage) (l : Logs) :
    (l.record now level m).systemFile = l.systemFile := by
  obtain ⟨files, console, hrecord, -⟩ := record_eq now level m l
  rw [hrecord]

theorem systemPath_of_attachSystemFile (hnone : l.systemFile = none)
    (hsome : (l.attachSystemFile now (dir.append LoggingConfig.systemFile)).1.systemFile = some p) :
    p = LoggingConfig.systemPath dir := by
  have hcontra : l.systemFile ≠ some p := by
    rw [hnone]
    rintro ⟨⟩
  unfold attachSystemFile at hsome
  split at hsome
  · exact absurd hsome hcontra
  · split at hsome
    · exact absurd hsome hcontra
    · exact absurd ((systemFile_record _ _ _ _).symm.trans hsome) hcontra
    · split at hsome
      · exact absurd hsome hcontra
      · cases hsome
        rfl

/-- A configuration that attaches the system log attaches it to its own system file. -/
theorem systemPath?_of_attached (hnone : l.systemFile = none)
    (hsome : (l.configure homes now c).1.systemFile = some p) : c.systemPath? homes = some p := by
  have hcontra : l.systemFile ≠ some p := by
    rw [hnone]
    rintro ⟨⟩
  unfold configure at hsome
  dsimp only at hsome
  split at hsome
  · exact absurd hsome hcontra
  · exact absurd hsome hcontra
  · next dir hdir =>
    have hpath : c.systemPath? homes = some (LoggingConfig.systemPath dir) := by
      rw [LoggingConfig.systemPath?, hdir]
    have hown : ∀ l', (attachSystemFile now (dir.append LoggingConfig.systemFile)
        { l with threshold := c.logLevel }).1 = l' → l'.systemFile = some p →
          c.systemPath? homes = some p := by
      rintro l' rfl hl'
      rw [hpath, systemPath_of_attachSystemFile (l := { l with threshold := c.logLevel }) hnone hl']
    split at hsome
    · next hresult => exact hown _ (congrArg Prod.fst hresult) hsome
    · next hresult =>
      rw [systemFile_attachAuditFile] at hsome
      exact hown _ (congrArg Prod.fst hresult) hsome

/-- **Warnings and the level of the console.** Let a configuration be the first that attaches the
system log to a file. From then on that file stays the one, whatever is configured later. Of the
records that are handed over, those that are warnings or graver and that the console is set to show
are appended, each as one line and in order, and nothing else is. So the file gets all warnings
just if the console is set to show each of them when it is handed over; where only levels are set
that a configuration may name, that is if no warning is handed over while the console is set to
show errors only. The console gets what it is set to show, from the start of the run on. -/
theorem warnings_kept_iff (homes : Homes) (files : FileTree)
    (before later : List (Instant × LogStep)) (now : Instant) (c : LoggingConfig) {p : Path}
    (unattached : (after homes { files := files } before).systemFile = none)
    (attached : (after homes { files := files } (before ++ [(now, .configure c)])).systemFile =
      some p) :
    let steps := before ++ [(now, .configure c)]
    let l := after homes { files := files } steps
    let l' := l.after homes later
    let es := logged homes c.logLevel l later
    c.systemPath? homes = some p ∧ l'.systemFile = some p ∧
      (∃ written, l'.files.node? p.place = some (.file (l.files.contents p.place ++ written)) ∧
        written.splitOn 0x0A =
          ((es.filter fun e => e.shown && e.grave).map fun e => Utf8.encode e.line) ++ [[]] ∧
        (written = lines (es.filter grave) ↔ ∀ e ∈ es, e.grave = true → e.shown = true)) ∧
      ((∀ s ∈ steps ++ later, ∀ level ∈ s.2.level?, level ∈ LoggingConfig.levels) →
        ((∀ e ∈ es, e.grave = true → e.shown = true) ↔
          ∀ e ∈ es, ¬ (e.level = .warning ∧ e.threshold = .error))) ∧
      (after homes { files := files } (steps ++ later)).console =
        consoleText ((logged homes .info { files := files } (steps ++ later)).filter shown) := by
  intro steps l l' es
  have hstart := sound_start files
  have hsound : l.Sound := sound_after hstart homes steps
  have hconfigured : l = ((after homes { files := files } before).configure homes now c).1 :=
    after_append homes { files := files } before [(now, .configure c)]
  have hlevel : l.threshold = c.logLevel := by
    rw [hconfigured]
    exact threshold_configure homes _ now c
  have hwrites : l.Writes l' es := by
    have hrun := writes_after hsound homes later
    rwa [hlevel] at hrun
  obtain ⟨hsystem, hcontents⟩ := hwrites.file p attached
  have hholds := (sound_after hsound homes later).system p hsystem
  refine ⟨?_, hsystem, ⟨_, ?_, splitOn_lines _, lines_shown_eq_iff⟩, fun hlevels => ?_, ?_⟩
  · exact systemPath?_of_attached unattached ((congrArg systemFile hconfigured).symm.trans attached)
  · rw [hholds.1.there, hcontents]
  · obtain ⟨hsteps, hlater⟩ := List.forall_mem_append.mp hlevels
    have hc : c.logLevel ∈ LoggingConfig.levels :=
      hsteps (now, .configure c) (List.mem_append_right _ List.mem_cons_self) c.logLevel rfl
    have hthreshold := threshold_mem_of_mem_logged homes l hlater hc
    refine forall₂_congr fun e he => ?_
    rw [← grave_not_shown_iff (hthreshold e he), not_not]
  · exact (writes_after hstart homes (steps ++ later)).console

/-- The first log directory cannot be made, which is told on the console alone. The second one is
used from then on, also when a third one is named: the warning and the error are in its file, and
the record below is not. -/
theorem warnings_kept_iff_moved :
    let homes : Homes := ⟨"/root", fun _ => none⟩
    let now : Instant := ⟨0⟩
    let files : FileTree := { entries := [(["f"], .file [])] }
    let before : List (Instant × LogStep) := [(now, .configure { logDir := some "f" })]
    let c : LoggingConfig := { logDir := some "logs", logLevel := .debug }
    let later : List (Instant × LogStep) :=
      [(now, .system .warning (.text "low\ndisk")),
        (now, .configure { logDir := some "more", logLevel := .warning }),
        (now, .system .info (.text "told")), (now, .system .error (.text "full"))]
    let p := Path.parse "logs/system/system.jsonl"
    let l := after homes { files := files } (before ++ [(now, .configure c)])
    (after homes { files := files } before).systemFile = none ∧ l.systemFile = some p ∧
      (l.after homes later).systemFile = some p ∧
      ∃ written, (l.after homes later).files.node? p.place = some (.file written) ∧
        written.splitOn 0x0A = [Utf8.encode ((LogMessage.text "low\ndisk").jsonLine now.render),
          Utf8.encode ((LogMessage.text "full").jsonLine now.render), []] := by
  intro homes now files before c later p l
  have unattached : (after homes { files := files } before).systemFile = none := by decide +kernel
  have attached : l.systemFile = some p := by decide +kernel
  obtain ⟨-, hsystem, ⟨written, hnode, hlines, -⟩, -, -⟩ :=
    warnings_kept_iff homes files before later now c unattached attached
  have hempty : l.files.contents p.place = [] := by decide +kernel
  have hkept : ((logged homes c.logLevel l later).filter fun e => e.shown && e.grave).map
      (fun e => Utf8.encode e.line) =
        [Utf8.encode ((LogMessage.text "low\ndisk").jsonLine now.render),
          Utf8.encode ((LogMessage.text "full").jsonLine now.render)] := by
    decide +kernel
  rw [hempty, List.nil_append] at hnode
  rw [hkept] at hlines
  exact ⟨unattached, attached, hsystem, written, hnode, hlines⟩

/-- The console is set to show errors only, and a warning is handed over. The file of the system
log does not get it. -/
theorem warning_lost :
    let homes : Homes := ⟨"/root", fun _ => none⟩
    let now : Instant := ⟨0⟩
    let c : LoggingConfig := { logDir := some "logs", logLevel := .error }
    let m : LogMessage := .fields [("event", .str "disk_low"), ("message", .str "disk low")]
    let p := Path.parse "logs/system/system.jsonl"
    let l := after homes { files := {} } [(now, .configure c)]
    let l' := l.after homes [(now, .system .warning m)]
    l.systemFile = some p ∧ l.files.contents p.place = [] ∧ l'.files.contents p.place = [] ∧
      l'.files.contents p.place ≠
        l.files.contents p.place ++ Utf8.encode (m.jsonLine now.render ++ "\n") := by
  decide +kernel

end Logs

end StepUp
