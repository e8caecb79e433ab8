import StepUp.Proofs.Logs.Step

/-!
# Runs of the logs

In an `Undisturbed` run every configuration returns and nobody breaks the audit log. Where events
go is then told by the configurations alone: to the audit file of the last one that named a log
directory. So the steps alone tell which events are `sent` to the file in a place, and the run
writes exactly their lines there (`continues_after`).
-/

namespace StepUp

/-- The audit file that a step makes the destination of events. -/
def LogStep.auditPath? (homes : Homes) : LogStep → Option Path
  | .configure c => c.auditPath? homes
  | _ => none

/-- A configuration that does not return and a broken audit log disturb a run. -/
def LogStep.undisturbed : LogStep → Except LogFault LogReply → Bool
  | .configure _, outcome => outcome.isOk
  | .breakAudit _, _ => false
  | _, _ => true

namespace Logs

variable {l : Logs} {homes : Homes} {d : Option Path} {steps : List (Instant × LogStep)}
  {now : Instant} {s : LogStep} {p : Path} {place : Place}

/-- The logs that a run ends with. -/
def after (homes : Homes) (l : Logs) (steps : List (Instant × LogStep)) : Logs :=
  ((l.run homes steps).getLast?.map Prod.fst).getD l

theorem after_nil (homes : Homes) (l : Logs) : l.after homes [] = l := rfl

theorem after_cons (homes : Homes) (l : Logs) (now : Instant) (s : LogStep)
    (rest : List (Instant × LogStep)) :
    l.after homes ((now, s) :: rest) = (l.step homes now s).1.after homes rest := by
  unfold after
  rw [run, List.getLast?_cons]
  cases (run homes (l.step homes now s).1 rest).getLast? <;> rfl

theorem sound_after (h : l.Sound) (homes : Homes) (steps : List (Instant × LogStep)) :
    (l.after homes steps).Sound := by
  induction steps generalizing l with
  | nil => exact h
  | cons st rest ih =>
    rw [after_cons]
    exact ih (continues_step h homes st.1 st.2).sound

/-- Every configuration of the run returns, and the audit log is not broken in it. -/
def Undisturbed (homes : Homes) (l : Logs) (steps : List (Instant × LogStep)) : Prop :=
  ∀ q ∈ steps.zip (l.run homes steps), q.1.2.undisturbed q.2.2 = true

instance : Decidable (Undisturbed homes l steps) :=
  inferInstanceAs (Decidable (∀ q ∈ steps.zip (l.run homes steps), _ = true))

theorem undisturbed_cons {rest : List (Instant × LogStep)} :
    Undisturbed homes l ((now, s) :: rest) ↔
      s.undisturbed (l.step homes now s).2 = true ∧
        Undisturbed homes (l.step homes now s).1 rest := by
  unfold Undisturbed
  rw [run, List.zip_cons_cons, List.forall_mem_cons]

/-! ## Where events go -/

/-- The audit files that a run names, in order. -/
def destinations (homes : Homes) (steps : List (Instant × LogStep)) : List Path :=
  steps.filterMap fun s => s.2.auditPath? homes

/-- The events that are sent to the file in a place, where events went to `d` before. -/
def sent (homes : Homes) (place : Place) :
    Option Path → List (Instant × LogStep) → List (Instant × AuditEvent)
  | _, [] => []
  | d, (now, s) :: rest =>
    let here := match s with
      | .audit e => if d.map Path.place = some place then [(now, e)] else []
      | _ => []
    here ++ sent homes place ((s.auditPath? homes).or d) rest

/-- The audit log is attached to the file, or there is none yet. -/
structure Follows (l : Logs) (d : Option Path) : Prop where
  audit : l.audit = d.map fun _ => .file
  auditFile : l.auditFile = d

theorem follows_start (files : FileTree) : Follows { files := files } none := ⟨rfl, rfl⟩

theorem Follows.auditPath? (h : l.Follows d) : l.auditPath? = d := by
  rw [Logs.auditPath?, h.audit]
  cases d with
  | none => rfl
  | some p => exact h.auditFile

theorem follows_of_auditPath? (h : l.auditPath? = some p) : l.Follows (some p) := by
  unfold Logs.auditPath? at h
  split at h
  · next haudit => exact ⟨haudit, h⟩
  · cases h

theorem Follows.configure (hd : l.Follows d) (h : l.Sound) (now : Instant) {c : LoggingConfig}
    (hok : (l.configure homes now c).2.isOk = true) :
    (l.configure homes now c).1.Follows ((c.auditPath? homes).or d) := by
  have hcases := configured h homes now c
  generalize l.configure homes now c = result at hcases hok
  cases hcases with
  | unnamed hpath hkeeps =>
    rw [hpath, Option.none_or]
    exact ⟨hkeeps.audit.trans hd.audit, hkeeps.auditFile.trans hd.auditFile⟩
  | refused _ _ => cases hok
  | detached _ _ => cases hok
  | attached hpath _ _ =>
    rw [hpath, Option.some_or]
    exact ⟨rfl, rfl⟩

theorem Follows.step (hd : l.Follows d) (h : l.Sound)
    (hs : s.undisturbed (l.step homes now s).2 = true) :
    (l.step homes now s).1.Follows ((s.auditPath? homes).or d) := by
  cases s with
  | configure c =>
    refine hd.configure h now ?_
    simp only [Logs.step, LogStep.undisturbed] at hs
    cases hresult : (l.configure homes now c).2 with
    | ok b => rfl
    | error f =>
      rw [hresult] at hs
      cases hs
  | breakAudit error => cases hs
  | system level m =>
    obtain ⟨haudit, hfile⟩ := audit_step (s := .system level m) h homes now rfl
    exact ⟨haudit.trans hd.audit, hfile.trans hd.auditFile⟩
  | audit e =>
    obtain ⟨haudit, hfile⟩ := audit_step (s := .audit e) h homes now rfl
    exact ⟨haudit.trans hd.audit, hfile.trans hd.auditFile⟩

/-! ## Whole runs -/

theorem Continues.refl (h : l.Sound) : l.Continues l fun _ => [] := h.keeps.continues

theorem Continues.trans {l' l'' : Logs} {sent sent' : Place → List (Instant × AuditEvent)}
    (h : l.Continues l' sent) (h' : l'.Continues l'' sent') :
    l.Continues l'' fun place => sent place ++ sent' place := by
  refine ⟨h'.sound, h.grown.trans h'.grown, fun place hplace => ?_⟩
  rw [h'.contents place hplace, h.contents place hplace, List.append_assoc, AuditEvent.lines,
    AuditEvent.lines, AuditEvent.lines, List.flatMap_append]

/-- What a step sends is told by the step and by where events go. -/
theorem sent_cons (hd : l.Follows d) (homes : Homes) (place : Place) (now : Instant) (s : LogStep)
    (rest : List (Instant × LogStep)) :
    sent homes place d ((now, s) :: rest) =
      l.sentBy place now s ++ sent homes place ((s.auditPath? homes).or d) rest := by
  cases s with
  | audit e =>
    rw [sentBy, hd.auditPath?]
    rfl
  | _ => rfl

/-- **An undisturbed run** writes to audit files the lines of the events that are sent to them. -/
theorem continues_after (h : l.Sound) (hd : l.Follows d) (hsteps : Undisturbed homes l steps) :
    l.Continues (l.after homes steps) fun place => sent homes place d steps := by
  -- on the steps, for any logs that follow any file: a configuration changes both
  induction steps generalizing l d with
  | nil => exact .refl h
  | cons st rest ih =>
    obtain ⟨now, s⟩ := st
    obtain ⟨hs, hrest⟩ := undisturbed_cons.mp hsteps
    have hstep := continues_step h homes now s
    have hrun := ih hstep.sound (hd.step h hs) hrest
    simp only [sent_cons hd]
    rw [after_cons]
    exact hstep.trans hrun

/-- Events go to the last audit file that was named. -/
theorem follows_after (h : l.Sound) (hd : l.Follows d) (hsteps : Undisturbed homes l steps) :
    (l.after homes steps).Follows ((destinations homes steps).getLast?.or d) := by
  induction steps generalizing l d with
  | nil => exact hd
  | cons st rest ih =>
    obtain ⟨now, s⟩ := st
    obtain ⟨hs, hrest⟩ := undisturbed_cons.mp hsteps
    have hrun := ih (continues_step h homes now s).sound (hd.step h hs) hrest
    rw [after_cons, destinations, List.filterMap_cons]
    cases hpath : s.auditPath? homes with
    | none =>
      rw [hpath, Option.none_or] at hrun
      exact hrun
    | some p =>
      have hlast : (destinations homes rest).getLast?.or (some p) =
          (p :: destinations homes rest).getLast?.or d := by
        rw [List.getLast?_cons]
        cases (destinations homes rest).getLast? <;> rfl
      rw [hpath, Option.some_or, hlast] at hrun
      exact hrun

/-- All audit files that were named are there. -/
theorem holds_destinations (h : l.Sound) (hd : l.Follows d) (hsteps : Undisturbed homes l steps)
    (hp : p ∈ destinations homes steps) :
    Holds (l.after homes steps).files LoggingConfig.auditName p := by
  induction steps generalizing l d with
  | nil => cases hp
  | cons st rest ih =>
    obtain ⟨now, s⟩ := st
    obtain ⟨hs, hrest⟩ := undisturbed_cons.mp hsteps
    have hsound := (continues_step h homes now s).sound
    have hnext := hd.step h hs
    rw [after_cons]
    rw [destinations, List.filterMap_cons] at hp
    split at hp
    · exact ih hsound hnext hrest hp
    · next q hq =>
      rcases List.mem_cons.mp hp with rfl | hp
      · rw [hq, Option.some_or] at hnext
        exact (hsound.holds hnext.auditPath?).of_extends
          (continues_after hsound hnext hrest).grown
      · exact ih hsound hnext hrest hp

end Logs

end StepUp
