import StepUp.Proofs.Logs.Run

/-!
# Audit events are kept

While every configuration returns, an event that is handed to the audit log is appended as one line
to the audit file of the last configuration that named a log directory, and nothing else happens:
no other file changes, the one of the system log included, and nothing is shown on the console.
`Logs.audit_kept` says this of every step of every run, and of the audit files after the run: what
was in them is in front, and behind it stand the lines of the events that were sent to them, in
order, each to be read back.
-/

namespace StepUp.Logs

open FileTree

variable {l : Logs} {homes : Homes} {p : Path} {e : AuditEvent}

/-- A step appended a line to the file that a path leads to, and did nothing else. -/
structure Appends (l l' : Logs) (p : Path) (line : Text) : Prop where
  file : l.files.HasFile p
  single : 0x0A ∉ Utf8.encode line
  written : l'.files.node? p.place =
    some (.file (l.files.contents p.place ++ Utf8.encode (line ++ "\n")))
  others : ∀ place, place ≠ p.place → l'.files.node? place = l.files.node? place
  /-- The file of the system log is another one. -/
  system : ∀ q ∈ l.systemFile, q.place ≠ p.place
  frame : l' = { l with files := l'.files }

/-- An audit log that is attached to a file appends the line of an event to it. -/
theorem appends_of_auditPath? (h : l.Sound) (hp : l.auditPath? = some p) (homes : Homes)
    (now : Instant) (e : AuditEvent) :
    ∃ l', l.step homes now (.audit e) = (l', .ok .done) ∧ l.Appends l' p (e.line now) := by
  have hholds := h.holds hp
  have hfile := hholds.1
  refine ⟨l.appendLine p (e.line now), ?_, ?_⟩
  · rw [step, tell_of_auditPath? hp]
  · refine ⟨hfile, AuditEvent.newline_not_mem_line now e, ?_, fun place hplace => ?_,
      fun q hq hsame => ?_, rfl⟩
    · rw [appendLine, hfile.append_eq, node?_put_self hfile.isGiven_eq_false]
    · exact hfile.node?_append_of_ne _ hplace
    · have hsystem := (h.system q hq).2
      rw [hsame] at hsystem
      exact hholds.not_system hsystem

/-- **Audit events are kept.** After a run in which every configuration returned and the audit log
was not broken, an event is refused if no configuration named a log directory, and otherwise one
line for it is appended to the audit file of the last one that did, and nothing else happens. The
audit files of the run have what they had and the lines of the events that were sent to them, one
behind the other; an event that was read and accepted, without surrogates in its texts, is read
back from its line with all its fields that are not null. Nothing is lost from any file. -/
theorem audit_kept (homes : Homes) (files : FileTree) (steps : List (Instant × LogStep))
    (undisturbed : Undisturbed homes { files := files } steps) :
    let l := after homes { files := files } steps
    ((destinations homes steps).getLast? = none →
      ∀ now e, l.step homes now (.audit e) = (l, .error .noAuditLog)) ∧
    (∀ p, (destinations homes steps).getLast? = some p → ∀ now e,
      ∃ l', l.step homes now (.audit e) = (l', .ok .done) ∧ l.Appends l' p (e.line now)) ∧
    (∀ p ∈ destinations homes steps, ∃ written,
      l.files.resolve p = .ok p.place ∧
      l.files.node? p.place = some (.file (files.contents p.place ++ written)) ∧
      written.splitOn 0x0A =
        ((sent homes p.place none steps).map fun q => Utf8.encode (q.2.line q.1)) ++ [[]]) ∧
    (∀ now e, e.Accepted → e.Unicode →
      AuditEvent.readLine (Utf8.encode (e.line now)) = some (.obj (e.shown now)) ∧
        AuditEvent.check (.obj (e.shown now)) = .ok e) ∧
    files.Extends l.files := by
  intro l
  have hstart := sound_start files
  have hsound : l.Sound := sound_after hstart homes steps
  have hcontinues := continues_after hstart (follows_start files) undisturbed
  have hfollows := follows_after hstart (follows_start files) undisturbed
  rw [Option.or_none] at hfollows
  refine ⟨fun hnone now e => ?_, fun p hp now e => ?_, fun p hp => ?_, fun now e ha hu => ?_,
    hcontinues.grown⟩
  · have haudit : l.audit = none := by
      rw [hfollows.audit, hnone]
      rfl
    rw [step, tell, haudit]
  · have hpath : l.auditPath? = some p := hfollows.auditPath?.trans hp
    exact appends_of_auditPath? hsound hpath homes now e
  · have hholds := holds_destinations hstart (follows_start files) undisturbed hp
    refine ⟨_, hholds.1.leads, ?_, AuditEvent.splitOn_lines _⟩
    rw [hholds.1.there, hcontinues.contents p.place hholds.not_system]
  · exact ⟨AuditEvent.readLine_line ha hu now, AuditEvent.check_shown now e⟩

/-- A run with two log directories, between them a configuration without one, and with a record of
the system log: the event with a line break, quotes and a character beyond the first plane is in
the first audit file, behind the line that was there, and the other event in the second one. -/
theorem audit_kept_moved :
    let homes : Homes := ⟨"/root", fun _ => none⟩
    let now : Instant := ⟨0⟩
    let old := Utf8.encode "old\n"
    let files : FileTree := { entries := [(["logs"], .directory 0o755),
      (["logs", "audit"], .directory 0o755), (["logs", "audit", "resolutions.jsonl"], .file old)] }
    let first : AuditEvent := { outcome := .failed, requestId := "r\n1", error := some "\"😀\"" }
    let second : AuditEvent := { outcome := .verified, requestId := "r2", rank := some 2 }
    let steps : List (Instant × LogStep) :=
      [(now, .configure { logDir := some "logs" }), (now, .audit first),
        (now, .system .error (.text "trouble")), (now, .configure { logDir := none }),
        (now, .configure { logDir := some "./more/x/.." }), (now, .audit second)]
    let l := after homes { files := files } steps
    Undisturbed homes { files := files } steps ∧
      (∃ written, l.files.node? ["logs", "audit", "resolutions.jsonl"] =
          some (.file (old ++ written)) ∧
        written.splitOn 0x0A = [Utf8.encode (first.line now), []]) ∧
      (∃ written, l.files.node? ["more", "audit", "resolutions.jsonl"] = some (.file written) ∧
        written.splitOn 0x0A = [Utf8.encode (second.line now), []]) ∧
      AuditEvent.readLine (Utf8.encode (first.line now)) = some (.obj (first.shown now)) := by
  intro homes now old files first second steps l
  have undisturbed : Undisturbed homes { files := files } steps := by decide +kernel
  have unicode : first.Unicode := by
    unfold AuditEvent.Unicode
    decide
  have regular := AuditEvent.regular_shown (e := first)
    (fun n hn => absurd hn (Option.not_mem_none n)) unicode now
  have accepted : first.Accepted :=
    ⟨_, _, Json.parse_render regular, AuditEvent.check_shown now first⟩
  obtain ⟨-, -, hfiles, hreads, -⟩ := audit_kept homes files steps undisturbed
  obtain ⟨written, -, hnode, hlines⟩ := hfiles (Path.parse "logs/audit/resolutions.jsonl")
    (by decide +kernel)
  obtain ⟨written', -, hnode', hlines'⟩ := hfiles (Path.parse "more/audit/resolutions.jsonl")
    (by decide +kernel)
  exact ⟨undisturbed, ⟨written, hnode, hlines⟩, ⟨written', hnode', hlines'⟩,
    (hreads now first accepted unicode).1⟩

end StepUp.Logs
