import StepUp.Logs
import StepUp.Proofs.Log.Line
import StepUp.Proofs.Log.Location

/-!
# One step of the logs

The logs are `Sound` while the files that they are attached to are there under their own names. All
that happens besides audit events and the change of the audit file `Keeps` the audit log: it grows
the files and writes to no file but one of the system log. What a configuration can come to is
listed once in `Configured`; in particular it detaches the audit log only when the new file cannot
be opened, and then the error names that file.

From this follows what one step does (`continues_step`): it keeps the logs sound, takes nothing away
from any file, and writes to a file that is none of the system log only the line of an event, and
only where events go (`auditPath?`).
-/

namespace StepUp

/-- Whether a step may change where audit events go: a configuration without a log directory does
not. -/
def LogStep.redirects : LogStep → Bool
  | .configure c => c.logDir.isSome
  | .breakAudit _ => true
  | .system _ _ | .audit _ => false

namespace Logs

open FileTree

variable {l l' : Logs} {homes : Homes} {now : Instant} {c : LoggingConfig} {e : AuditEvent}
  {s : LogStep} {p dir : Path} {place : Place}

/-- The file that audit events go to, while the audit log works and is attached to one. -/
def auditPath? (l : Logs) : Option Path :=
  match l.audit with
  | some .file => l.auditFile
  | _ => none

/-- A path leads to a file of that name. -/
def Holds (t : FileTree) (name : Text) (p : Path) : Prop :=
  t.HasFile p ∧ p.place.getLast? = some name

/-- The files that the logs are attached to are there. -/
structure Sound (l : Logs) : Prop where
  system : ∀ p ∈ l.systemFile, Holds l.files LoggingConfig.systemName p
  audit : ∀ p ∈ l.auditFile, Holds l.files LoggingConfig.auditName p

/-- The audit log is left as it is, and nothing is written but to files of the system log. -/
structure Keeps (l l' : Logs) : Prop where
  sound : l'.Sound
  grown : l.files.Extends l'.files
  contents : ∀ place, place.getLast? ≠ some LoggingConfig.systemName →
    l'.files.contents place = l.files.contents place
  audit : l'.audit = l.audit
  auditFile : l'.auditFile = l.auditFile

theorem sound_start (files : FileTree) : Sound { files := files } :=
  ⟨fun p hp => absurd hp (Option.not_mem_none p), fun p hp => absurd hp (Option.not_mem_none p)⟩

theorem Holds.of_extends {t t' : FileTree} {name : Text} (h : Holds t name p)
    (hgrown : t.Extends t') : Holds t' name p := ⟨hgrown.hasFile h.1, h.2⟩

/-- No file of the audit log is one of the system log. -/
theorem Holds.not_system {t : FileTree} (h : Holds t LoggingConfig.auditName p) :
    p.place.getLast? ≠ some LoggingConfig.systemName := by
  rw [h.2]
  decide

theorem Sound.of_extends (h : l.Sound) (hgrown : l.files.Extends l'.files)
    (hsystem : l'.systemFile = l.systemFile) (haudit : l'.auditFile = l.auditFile) : l'.Sound := by
  refine ⟨fun p hp => ?_, fun p hp => ?_⟩
  · rw [hsystem] at hp
    exact (h.system p hp).of_extends hgrown
  · rw [haudit] at hp
    exact (h.audit p hp).of_extends hgrown

theorem Sound.detach (h : l.Sound) : Sound { l with auditFile := none } :=
  ⟨h.system, fun p hp => absurd hp (Option.not_mem_none p)⟩

theorem Sound.attach (h : l.Sound) (hp : Holds l.files LoggingConfig.auditName p) :
    Sound { l with auditFile := some p, audit := some .file } := by
  refine ⟨h.system, fun q hq => ?_⟩
  cases hq
  exact hp

/-! ## What keeps the audit log -/

theorem Sound.keeps (h : l.Sound) : l.Keeps l := ⟨h, .refl _, fun _ _ => rfl, rfl, rfl⟩

theorem Keeps.trans {l'' : Logs} (h : l.Keeps l') (h' : l'.Keeps l'') : l.Keeps l'' where
  sound := h'.sound
  grown := h.grown.trans h'.grown
  contents place hplace := (h'.contents place hplace).trans (h.contents place hplace)
  audit := h'.audit.trans h.audit
  auditFile := h'.auditFile.trans h.auditFile

theorem Keeps.auditPath? (h : l.Keeps l') : l'.auditPath? = l.auditPath? := by
  rw [Logs.auditPath?, Logs.auditPath?, h.audit, h.auditFile]

theorem keeps_threshold (h : l.Sound) (level : Level) : l.Keeps { l with threshold := level } :=
  ⟨⟨h.system, h.audit⟩, .refl _, fun _ _ => rfl, rfl, rfl⟩

theorem keeps_files (h : l.Sound) {files : FileTree} (hfiles : l.files.Prepares files) :
    l.Keeps { l with files := files } :=
  ⟨h.of_extends hfiles.grown rfl rfl, hfiles.grown, fun place _ => hfiles.same place, rfl, rfl⟩

/-- A record goes to the console and to the file of the system log. -/
theorem record_eq (now : Instant) (level : Level) (m : LogMessage) (l : Logs) :
    ∃ files console, l.record now level m = { l with files := files, console := console } ∧
      (files = l.files ∨ ∃ p ∈ l.systemFile, ∃ octets, files = l.files.append p octets) := by
  unfold record
  split
  · unfold fileFor?
    dsimp only
    split
    · next p hp =>
      have hmem : p ∈ l.systemFile := by
        split at hp
        · exact hp
        · cases hp
      exact ⟨_, _, rfl, Or.inr ⟨p, hmem, _, rfl⟩⟩
    · exact ⟨_, _, rfl, Or.inl rfl⟩
  · exact ⟨l.files, l.console, rfl, Or.inl rfl⟩

theorem threshold_record (now : Instant) (level : Level) (m : LogMessage) (l : Logs) :
    (l.record now level m).threshold = l.threshold := by
  obtain ⟨files, console, hrecord, -⟩ := record_eq now level m l
  rw [hrecord]

/-- The console gets a line, if it shows records of this level. -/
theorem console_record (now : Instant) (level : Level) (m : LogMessage) (l : Logs) :
    (l.record now level m).console = l.console ++
      if level.reaches l.threshold then m.consoleLine level ++ "\n" else [] := by
  unfold record
  split
  · rw [← List.append_assoc]
    dsimp only
    split <;> rfl
  · exact (List.append_nil _).symm

theorem keeps_record (h : l.Sound) (now : Instant) (level : Level) (m : LogMessage) :
    l.Keeps (l.record now level m) := by
  obtain ⟨files, console, hrecord, hfiles⟩ := record_eq now level m l
  rw [hrecord]
  rcases hfiles with rfl | ⟨p, hp, octets, rfl⟩
  · exact ⟨h.of_extends (.refl _) rfl rfl, .refl _, fun _ _ => rfl, rfl, rfl⟩
  · obtain ⟨hfile, hname⟩ := h.system p hp
    have hgrown := extends_append l.files p octets
    refine ⟨h.of_extends hgrown rfl rfl, hgrown, fun place hplace => ?_, rfl, rfl⟩
    have hother : place ≠ p.place := by
      rintro rfl
      exact hplace hname
    exact hfile.contents_append_of_ne octets hother

/-! ## What a configuration can come to -/

theorem prepares_makeRoom (t : FileTree) (p : Path) : t.Prepares (makeRoom t p).1 := by
  have hmade := prepares_makeDirectories t p.parent
  unfold makeRoom
  split
  · next made hresult =>
    rw [hresult] at hmade
    exact hmade.trans (prepares_restrict hresult)
  · exact hmade

theorem keeps_attachSystemFile (h : l.Sound) (now : Instant) (dir : Path) :
    l.Keeps (l.attachSystemFile now (dir.append LoggingConfig.systemFile)).1 := by
  have hroom := prepares_makeRoom l.files (dir.append LoggingConfig.systemFile)
  unfold attachSystemFile
  split
  · exact h.keeps
  · next hnone =>
    split
    · next hresult =>
      rw [hresult] at hroom
      exact keeps_files h hroom
    · next hresult =>
      rw [hresult] at hroom
      have hkeeps := keeps_files h hroom
      exact hkeeps.trans (keeps_record hkeeps.sound _ _ _)
    · next made hresult =>
      rw [hresult] at hroom
      split
      · exact keeps_files h hroom
      · next opened hopened =>
        obtain ⟨hprepares, hfile⟩ := openToAppend_eq_ok hopened
        have hall := hroom.trans hprepares
        refine ⟨⟨fun p hp => ?_, fun p hp => (h.audit p hp).of_extends hall.grown⟩, hall.grown,
          fun place _ => hall.same place, rfl, rfl⟩
        cases hp
        exact ⟨hfile, LoggingConfig.place_systemPath dir⟩

theorem attachSystemFile_error {f : LogFault}
    (h : (l.attachSystemFile now (dir.append LoggingConfig.systemFile)).2 = .error f) :
    f = .file .nullInPath ∨ ∃ e, f = .file (.system e (LoggingConfig.systemPath dir).text) := by
  unfold attachSystemFile at h
  split at h
  · cases h
  · split at h
    · cases h
      exact Or.inl rfl
    · cases h
    · split at h
      · next hopened =>
        obtain ⟨e, rfl⟩ := openToAppend_eq_error hopened
        cases h
        exact Or.inr ⟨e, rfl⟩
      · cases h

/-- The new audit file cannot be made room for, or cannot be opened, or is opened. -/
theorem attachAuditFile_cases (l : Logs) (dir : Path) :
    (∃ f files, l.files.Prepares files ∧
      (∀ e, f ≠ .file (.system e (LoggingConfig.auditPath dir).text)) ∧
      l.attachAuditFile (dir.append LoggingConfig.auditFile) =
        ({ l with files := files }, .error f)) ∨
    (∃ e files, l.files.Prepares files ∧
      l.attachAuditFile (dir.append LoggingConfig.auditFile) =
        ({ l with files := files, auditFile := none },
          .error (.file (.system e (LoggingConfig.auditPath dir).text)))) ∨
    ∃ files, l.files.Prepares files ∧ files.HasFile (LoggingConfig.auditPath dir) ∧
      l.attachAuditFile (dir.append LoggingConfig.auditFile) =
        ({ l with files := files, auditFile := some (LoggingConfig.auditPath dir),
                  audit := some .file }, .ok ()) := by
  have hroom := prepares_makeRoom l.files (dir.append LoggingConfig.auditFile)
  unfold attachAuditFile
  split
  · next files hresult =>
    rw [hresult] at hroom
    refine Or.inl ⟨_, files, hroom, fun e he => ?_, rfl⟩
    cases he
  · next files f _ hresult =>
    rw [hresult] at hroom
    refine Or.inl ⟨_, files, hroom, fun e he => ?_, rfl⟩
    cases he
  · next made hresult =>
    rw [hresult] at hroom
    split
    · next f hopened =>
      obtain ⟨e, rfl⟩ := openToAppend_eq_error hopened
      exact Or.inr (Or.inl ⟨e, made, hroom, rfl⟩)
    · next opened hopened =>
      obtain ⟨hprepares, hfile⟩ := openToAppend_eq_ok hopened
      exact Or.inr (Or.inr ⟨opened, hroom.trans hprepares, hfile, rfl⟩)

/-- All that a configuration can come to: it names no log directory; it fails and leaves the audit
log alone; it cannot open the new audit file, and the audit log has none then; it succeeds. -/
inductive Configured (homes : Homes) (c : LoggingConfig) (l : Logs) :
    Logs × Except LogFault Bool → Prop
  | unnamed {l' : Logs} : c.auditPath? homes = none → l.Keeps l' →
    Configured homes c l (l', .ok false)
  | refused {l' : Logs} {f : LogFault} : l.Keeps l' →
    (∀ p ∈ c.auditPath? homes, ∀ e, f ≠ .file (.system e p.text)) →
    Configured homes c l (l', .error f)
  | detached {l' : Logs} {p : Path} {e : FileError} : c.auditPath? homes = some p → l.Keeps l' →
    Configured homes c l ({ l' with auditFile := none }, .error (.file (.system e p.text)))
  | attached {l' : Logs} {p : Path} : c.auditPath? homes = some p → l.Keeps l' →
    Holds l'.files LoggingConfig.auditName p →
    Configured homes c l ({ l' with auditFile := some p, audit := some .file }, .ok true)

theorem configured (h : l.Sound) (homes : Homes) (now : Instant) (c : LoggingConfig) :
    Configured homes c l (l.configure homes now c) := by
  have hthreshold := keeps_threshold h c.logLevel
  unfold configure
  dsimp only
  split
  · next f hf =>
    refine .refused hthreshold fun p hp => ?_
    rw [LoggingConfig.auditPath?, hf] at hp
    cases hp
  · next hnone =>
    refine .unnamed ?_ hthreshold
    rw [LoggingConfig.auditPath?, hnone]
  · next dir hdir =>
    have hpath : c.auditPath? homes = some (LoggingConfig.auditPath dir) := by
      rw [LoggingConfig.auditPath?, hdir]
    have hkeeps := hthreshold.trans (keeps_attachSystemFile hthreshold.sound now dir)
    split
    · next l' f hsystem =>
      rw [hsystem] at hkeeps
      -- no error about the system file can be taken for one about the audit file
      refine .refused hkeeps fun p hp e hf => ?_
      rw [hpath] at hp
      cases hp
      rcases attachSystemFile_error (congrArg Prod.snd hsystem) with hnull | ⟨e', hsystemFault⟩
      · rw [hnull] at hf
        cases hf
      · rw [hsystemFault] at hf
        injection hf with hf
        injection hf with _ htext
        exact LoggingConfig.text_systemPath_ne dir dir htext
    · next l' hsystem =>
      rw [hsystem] at hkeeps
      obtain ⟨f, files, hfiles, hf, hresult⟩ | ⟨e, files, hfiles, hresult⟩ |
        ⟨files, hfiles, hfile, hresult⟩ := attachAuditFile_cases l' dir
      · rw [hresult]
        refine .refused (hkeeps.trans (keeps_files hkeeps.sound hfiles)) fun p hp => ?_
        rw [hpath] at hp
        cases hp
        exact hf
      · rw [hresult]
        exact .detached hpath (hkeeps.trans (keeps_files hkeeps.sound hfiles))
      · rw [hresult]
        exact .attached hpath (hkeeps.trans (keeps_files hkeeps.sound hfiles))
          ⟨hfile, LoggingConfig.place_auditPath dir⟩

/-! ## Steps -/

/-- What a step sends to the file in a place: a line for an event, if events go there. -/
def sentBy (l : Logs) (place : Place) (now : Instant) : LogStep → List (Instant × AuditEvent)
  | .audit e => if l.auditPath?.map Path.place = some place then [(now, e)] else []
  | _ => []

/-- The logs go on: files grow, and what is sent to them is written behind what they hold. -/
structure Continues (l l' : Logs) (sent : Place → List (Instant × AuditEvent)) : Prop where
  sound : l'.Sound
  grown : l.files.Extends l'.files
  contents : ∀ place, place.getLast? ≠ some LoggingConfig.systemName →
    l'.files.contents place = l.files.contents place ++ AuditEvent.lines (sent place)

theorem Keeps.continues (h : l.Keeps l') : l.Continues l' fun _ => [] := by
  refine ⟨h.sound, h.grown, fun place hplace => ?_⟩
  rw [h.contents place hplace]
  exact (List.append_nil _).symm

theorem Sound.holds (h : l.Sound) (hp : l.auditPath? = some p) :
    Holds l.files LoggingConfig.auditName p := by
  unfold Logs.auditPath? at hp
  split at hp
  · exact h.audit p hp
  · cases hp

/-- A working audit log writes a line. -/
theorem tell_of_auditPath? (hp : l.auditPath? = some p) (now : Instant) (e : AuditEvent) :
    l.tell now e = .ok (l.appendLine p (e.line now)) := by
  unfold auditPath? at hp
  split at hp
  · next haudit =>
    unfold tell
    rw [haudit]
    dsimp only
    rw [hp]
    rfl
  · cases hp

/-- Any other audit log writes to no file, unless the system log does. -/
theorem tell_of_no_auditPath? (h : l.Sound) (hnone : l.auditPath? = none) (now : Instant)
    (e : AuditEvent) :
    l.tell now e = .error .noAuditLog ∨ ∃ l', l.tell now e = .ok l' ∧ l.Keeps l' := by
  unfold auditPath? at hnone
  unfold tell
  cases haudit : l.audit with
  | none => exact Or.inl rfl
  | some target =>
    cases target with
    | broken error => exact Or.inr ⟨_, rfl, keeps_record h _ _ _⟩
    | file =>
      rw [haudit] at hnone
      dsimp only at hnone ⊢
      rw [hnone]
      exact Or.inr ⟨l, rfl, h.keeps⟩

theorem continues_audit (h : l.Sound) (homes : Homes) (now : Instant) (e : AuditEvent) :
    l.Continues (l.step homes now (.audit e)).1 fun place => l.sentBy place now (.audit e) := by
  cases hpath : l.auditPath? with
  | none =>
    have hsent : (fun place => l.sentBy place now (.audit e)) = fun _ => [] := by
      funext place
      rw [sentBy, hpath]
      rfl
    rw [hsent]
    rcases tell_of_no_auditPath? h hpath now e with htell | ⟨l', htell, hkeeps⟩
    · simp only [step, htell]
      exact h.keeps.continues
    · simp only [step, htell]
      exact hkeeps.continues
  | some p =>
    obtain ⟨hfile, hname⟩ := h.holds hpath
    have hgrown := extends_append l.files p (Utf8.encode (e.line now ++ "\n"))
    simp only [step, tell_of_auditPath? hpath]
    refine ⟨h.of_extends hgrown rfl rfl, hgrown, fun place _ => ?_⟩
    rw [sentBy, hpath, Option.map_some]
    by_cases hplace : p.place = place
    · subst hplace
      rw [if_pos rfl, AuditEvent.lines, List.flatMap_singleton]
      exact hfile.contents_append _
    · have hother : some p.place ≠ some place := fun hsame => hplace (Option.some_inj.mp hsame)
      rw [if_neg hother, AuditEvent.lines, List.flatMap_nil, List.append_nil]
      exact hfile.contents_append_of_ne _ (Ne.symm hplace)

theorem continues_configure (h : l.Sound) (homes : Homes) (now : Instant) (c : LoggingConfig) :
    l.Continues (l.configure homes now c).1 fun _ => [] := by
  have hcases := configured h homes now c
  generalize l.configure homes now c = result at hcases
  cases hcases with
  | unnamed _ hkeeps => exact hkeeps.continues
  | refused hkeeps _ => exact hkeeps.continues
  | detached _ hkeeps =>
    have hcontinues := hkeeps.continues
    exact ⟨hkeeps.sound.detach, hcontinues.grown, hcontinues.contents⟩
  | attached _ hkeeps hholds =>
    have hcontinues := hkeeps.continues
    exact ⟨hkeeps.sound.attach hholds, hcontinues.grown, hcontinues.contents⟩

/-- **One step.** The logs stay sound and nothing is lost from a file; a line is written for an
event, to the file that events go to, and to no other but one of the system log. -/
theorem continues_step (h : l.Sound) (homes : Homes) (now : Instant) (s : LogStep) :
    l.Continues (l.step homes now s).1 fun place => l.sentBy place now s := by
  cases s with
  | configure c => exact continues_configure h homes now c
  | system level m => exact (keeps_record h now level m).continues
  | audit e => exact continues_audit h homes now e
  | breakAudit error =>
    exact ⟨⟨h.system, h.audit⟩, .refl _, fun place _ => (List.append_nil _).symm⟩

/-! ## Where events go -/

theorem logDir_of_redirects (h : (LogStep.configure c).redirects = false) : c.logDir = none :=
  Option.isNone_iff_eq_none.mp (Option.isSome_eq_false_iff.mp h)

theorem configure_of_no_directory (hc : c.logDir = none) (homes : Homes) (now : Instant)
    (l : Logs) : l.configure homes now c = ({ l with threshold := c.logLevel }, .ok false) := by
  rw [configure, LoggingConfig.directory?, hc]

/-- A step that neither names a log directory nor breaks the audit log leaves it as it is. -/
theorem audit_step (h : l.Sound) (homes : Homes) (now : Instant) (hs : s.redirects = false) :
    (l.step homes now s).1.audit = l.audit ∧ (l.step homes now s).1.auditFile = l.auditFile := by
  cases s with
  | configure c =>
    rw [step, configure_of_no_directory (logDir_of_redirects hs)]
    exact ⟨rfl, rfl⟩
  | breakAudit error => cases hs
  | system level m =>
    have hkeeps := keeps_record h now level m
    exact ⟨hkeeps.audit, hkeeps.auditFile⟩
  | audit e =>
    cases hpath : l.auditPath? with
    | none =>
      rcases tell_of_no_auditPath? h hpath now e with htell | ⟨l', htell, hkeeps⟩
      · rw [step, htell]
        exact ⟨rfl, rfl⟩
      · rw [step, htell]
        exact ⟨hkeeps.audit, hkeeps.auditFile⟩
    | some p =>
      rw [step, tell_of_auditPath? hpath]
      exact ⟨rfl, rfl⟩

end Logs

end StepUp
