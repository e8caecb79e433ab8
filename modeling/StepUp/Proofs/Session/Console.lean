import StepUp.Proofs.Chain.Notices
import StepUp.Proofs.Logs.Step
import StepUp.Proofs.Session.Run

/-!
# Lines of the console

The console shows each record in a line of its own that begins with the level. Messages are shown as
they are, though, and quote texts from outside. So it depends on these whether the lines can be told
apart by the line breaks (`Session.console_lines_iff`): a user with the right attribute can make a
line up (`Session.line_forged`).
-/

namespace StepUp

/-! ## A record -/

theorem Notice.message_ne_nil (n : Notice) : n.message ≠ [] := by
  obtain ⟨c, rest, h⟩ : ∃ c rest, n.message = c :: rest := by
    cases n <;> exact ⟨_, _, rfl⟩
  rw [h]
  exact List.cons_ne_nil _ _

theorem LogMessage.shown_ofRecord {x : LogRecord} (h : x.message ≠ []) :
    (ofRecord x).shown = x.message := by
  have hlookup : x.fields.lookup ("message" : Text) = some (.str x.message) := rfl
  have hempty : x.message.isEmpty = false := List.isEmpty_eq_false_iff.mpr h
  simp [shown, ofRecord, hlookup, Option.filter, Json.isTruthy, hempty, Json.display]

/-- What the console gets of a record that it shows. -/
def LogRecord.consoleText (x : LogRecord) : Text :=
  (LogMessage.ofRecord x).consoleLine x.level ++ "\n"

/-- A record that tells a notice is shown as that notice. -/
theorem LogRecord.Tells.consoleText {x : LogRecord} {n : Notice} (h : x.Tells n) :
    x.consoleText = n.line ++ "\n" := by
  have hmessage : x.message ≠ [] := h.message ▸ n.message_ne_nil
  rw [LogRecord.consoleText, LogMessage.consoleLine, LogMessage.shown_ofRecord hmessage, h.level,
    h.message, Notice.line]

/-! ## Records in turn -/

namespace Logs

/-- Write records in turn, each at its time. -/
def recordAll (l : Logs) (records : List (Instant × LogRecord)) : Logs :=
  records.foldl (fun l x => l.recordOf x.1 x.2) l

/-- Whether the console shows a record. -/
def shows (l : Logs) (x : LogRecord) : Bool := x.level.reaches l.threshold

theorem console_recordAll (l : Logs) (records : List (Instant × LogRecord)) :
    (l.recordAll records).console =
      l.console ++ ((records.map Prod.snd).filter l.shows).flatMap LogRecord.consoleText := by
  induction records generalizing l with
  | nil => exact (List.append_nil _).symm
  | cons x rest ih =>
    obtain ⟨now, x⟩ := x
    have hshows : (l.recordOf now x).shows = l.shows := by
      funext y
      rw [shows, recordOf, threshold_record, shows]
    have hfirst : (l.recordOf now x).console = l.console ++
        if l.shows x then x.consoleText else [] :=
      console_record _ _ _ _
    have hrest := ih (l.recordOf now x)
    rw [hshows, hfirst] at hrest
    rw [List.map_cons, List.filter_cons]
    refine hrest.trans ?_
    split
    · rw [List.flatMap_cons, List.append_assoc]
    · rw [List.append_nil]

end Logs

/-- Records that tell notices are shown as these. -/
theorem Notice.console_of_tells {xs : List LogRecord} {notices : List Notice}
    (h : List.Forall₂ LogRecord.Tells xs notices) :
    xs.flatMap LogRecord.consoleText = console notices := by
  induction h with
  | nil => rfl
  | cons hx _ ih =>
    rw [List.flatMap_cons, ih, hx.consoleText]
    rfl

/-! ## Sessions -/

namespace Session

variable {s : Session} {st : SessionStep}

/-- What a run records. -/
def records (s : Session) (steps : List SessionStep) : List LogRecord :=
  (s.run steps).flatMap fun x => x.2.records

theorem telling_step (provided : ∀ store, ∀ r ∈ (s.assemble store).resolvers, r.Provided) :
    Telling (s.step st).2.records := by
  refine step_reports (P := fun reaction => Telling reaction.records) (fun _ => .nil) ?_ ?_
  · intro n m p c t _ _ _
    exact (Chain.telling_resolve (provided _) _ _ _).append (Delivery.telling _ _ _)
  · intro method n m c t _ _ _
    exact Verifier.telling _ _ _ _

theorem telling_records (provided : ∀ store, ∀ r ∈ (s.assemble store).resolvers, r.Provided)
    (steps : List SessionStep) : Telling (s.records steps) := by
  induction steps generalizing s with
  | nil => exact .nil
  | cons st rest ih =>
    have hrest := ih (s := (s.step st).1) (by rwa [step_assemble])
    rw [records, run, List.flatMap_cons, ← records]
    exact (telling_step provided).append hrest

/-- **Lines of the console.** Let a session run over a chain of resolvers of this library, with any
requests, users, definitions and failures, and let what it records be written, each record at its
time. The records that the console shows tell notices, and it gets for each the level, a colon, a
blank, the message and the end of the line. There are as many line breaks as such records, and
splitting at these gives one line for each, just if no text that the notices quote has a line break.
It does not matter what else is taken for a line break, as long as no character from space to tilde
is. -/
theorem console_lines_iff (provided : ∀ store, ∀ r ∈ (s.assemble store).resolvers, r.Provided)
    (steps : List SessionStep) (l : Logs) (stamped : List (Instant × LogRecord))
    (stamps : stamped.map Prod.snd = s.records steps) :
    ∃ shown : List Notice,
      List.Forall₂ LogRecord.Tells ((s.records steps).filter l.shows) shown ∧
      (l.recordAll stamped).console = l.console ++ Notice.console shown ∧
      ∀ brk : CodePoint → Bool, brk '\n' = true → (∀ c : CodePoint, c.Plain → brk c = false) →
        ((Notice.console shown).countP brk = ((s.records steps).filter l.shows).length ↔
          ∀ n ∈ shown, n.Unbroken brk) ∧
        ((Notice.console shown).splitOnP brk = shown.map Notice.line ++ [[]] ↔
          ∀ n ∈ shown, n.Unbroken brk) := by
  have htelling : Telling ((s.records steps).filter l.shows) := fun x hx =>
    telling_records provided steps x (List.mem_filter.mp hx).1
  obtain ⟨shown, hshown⟩ := htelling.exists_notices
  refine ⟨shown, hshown, ?_, fun brk hbreak hplain => ⟨?_, ?_⟩⟩
  · rw [Logs.console_recordAll, stamps, Notice.console_of_tells hshown]
  · rw [hshown.length_eq]
    exact Notice.countP_console_iff hbreak hplain
  · exact Notice.splitOnP_console_iff hbreak hplain

/-- The only record that is shown ignores an attribute of the user, in one line. -/
theorem console_lines_iff_ignored :
    let sms : Method := ⟨"sms", 1⟩
    let c : Config := { methods := [sms], principalMethodAttribute := some "mfa" }
    let registry : Registry := ⟨[sms], by decide⟩
    let s : Session :=
      { assemble := fun store => ⟨c.resolvers registry (.ofList []) store, { registry := registry }⟩
        services := .ofList []
        store := .absent
        sink := none }
    let ann : Principal := ⟨"ann", [("mfa", .str "fax")]⟩
    let steps : List SessionStep :=
      [.request "r" ⟨[], [], "r1", false⟩, .target "t" { id := "app" }, .resolve "r" "t" (some ann)]
    let message : Text :=
      "Attribute 'mfa' value 'fax' of principal 'ann' is not a supported method, ignoring"
    ∀ now, (Logs.recordAll {} ((s.records steps).map fun x => (now, x))).console.splitOnP
      (fun c => c == CodePoint.ofChar '\n') = ["INFO: " ++ message, []] := by
  intro sms c registry s ann steps message now
  have hshown : (s.records steps).filter (Logs.shows {}) =
      [Resolver.info ⟨[], [], "r1", false⟩ "principal_method_unsupported" message] := rfl
  obtain ⟨shown, htold, hconsole, hlines⟩ := console_lines_iff (s := s)
    (fun _ => Config.provided) steps {} ((s.records steps).map fun x => (now, x))
    (by rw [List.map_map]; exact List.map_id _)
  have hwords : ∀ c ∈ message, c.Plain := by decide
  rw [hshown] at htold
  obtain ⟨n, _, hn, hrest, rfl⟩ := List.forall₂_cons_left_iff.mp htold
  cases hrest
  have hplain (c : CodePoint) (hc : c.Plain) : (c == CodePoint.ofChar '\n') = false := by
    refine beq_false_of_ne ?_
    rintro rfl
    exact absurd hc (by decide)
  have hunbroken : ∀ m ∈ [n], m.Unbroken fun c => c == CodePoint.ofChar '\n' := by
    rw [List.forall_mem_singleton, Notice.unbroken_iff hplain, ← hn.message]
    exact fun c hc => hplain c (hwords c hc)
  rw [hconsole, List.nil_append, (hlines _ (by decide) hplain).2.mpr hunbroken, List.map_singleton,
    Notice.line, ← hn.level, ← hn.message]
  rfl

/-- The attribute of the user has a line break in its value. One record is shown, in two lines; the
second one looks like that of an error. -/
theorem line_forged :
    let sms : Method := ⟨"sms", 1⟩
    let c : Config := { methods := [sms], principalMethodAttribute := some "mfa" }
    let registry : Registry := ⟨[sms], by decide⟩
    let s : Session :=
      { assemble := fun store => ⟨c.resolvers registry (.ofList []) store, { registry := registry }⟩
        services := .ofList []
        store := .absent
        sink := none }
    let ann : Principal := ⟨"ann", [("mfa", .str "fax\nERROR: forged")]⟩
    let steps : List SessionStep :=
      [.request "r" ⟨[], [], "r1", false⟩, .target "t" { id := "app" }, .resolve "r" "t" (some ann)]
    let lines : List Text := ["INFO: Attribute 'mfa' value 'fax",
      "ERROR: forged' of principal 'ann' is not a supported method, ignoring", []]
    ((s.records steps).filter (Logs.shows {})).map LogRecord.level = [.info] ∧
      (Logs.recordAll {} ((s.records steps).map fun x => (⟨0⟩, x))).console.splitOnP
        (fun c => c == CodePoint.ofChar '\n') = lines := by
  intro sms c registry s ann steps lines
  exact ⟨by decide +kernel, by decide +kernel⟩

end Session

end StepUp
