import StepUp.Proofs.Session.Call

/-!
# The sink has no say

A sink is handed the event of a resolution when its answer is there and context and target are
written, and what becomes of the event is only told in the log. `withSink` puts another sink in
the place of a session's, or none:

* `step_withSink`: a step answers the same and does the same to all but the sink;
* `step_records_withSink`: with a sink it records what it records without, and one error for each
  write that fails;
* `written_of_working`: a sink that works is given the event of each call, step by step.

`audit_never_influences` says this of whole runs without a sink, with one that works and with one
that fails at any of its writes.
-/

namespace StepUp

/-! ## Writes that fail -/

namespace Delivery

variable {sink : AuditSink} {i : Nat} {es : List AuditEvent} {x : LogRecord}

/-- One record for each event whose write fails, where the writes are numbered from `i`. -/
def failures (sink : AuditSink) (i : Nat) (es : List AuditEvent) : List LogRecord :=
  (es.zipIdx i).filterMap fun p => (sink.errorOf p.2).map (failureRecord p.1)

/-- The same for the events of one step after the other. -/
def failuresByStep (sink : AuditSink) : Nat → List (List AuditEvent) → List (List LogRecord)
  | _, [] => []
  | i, es :: rest => failures sink i es :: failuresByStep sink (i + es.length) rest

theorem level_of_mem_failures (h : x ∈ failures sink i es) : x.level = .error := by
  obtain ⟨p, -, herror⟩ := List.mem_filterMap.mp h
  obtain ⟨error, -, rfl⟩ := Option.map_eq_some_iff.mp herror
  rfl

theorem level_of_mem_failuresByStep {ess : List (List AuditEvent)} {xs : List LogRecord}
    (h : xs ∈ failuresByStep sink i ess) (hx : x ∈ xs) : x.level = .error := by
  induction ess generalizing i with
  | nil => cases h
  | cons es rest ih =>
    rcases List.mem_cons.mp h with rfl | h
    · exact level_of_mem_failures hx
    · exact ih h

theorem failures_of_working (i : Nat) (es : List AuditEvent) : failures .working i es = [] := by
  simp [failures, AuditSink.working]

theorem records_of_some (sink : AuditSink) (i : Nat) (event : Option AuditEvent) :
    (of (some sink) i event).records = failures sink i event.toList := by
  cases event with
  | none => rfl
  | some e => cases herror : sink.errorOf i <;> simp [of, failures, herror]

theorem attempts_of_some (sink : AuditSink) (i : Nat) (event : Option AuditEvent) :
    (of (some sink) i event).attempts = i + event.toList.length := by
  cases event with
  | none => rfl
  | some e => cases herror : sink.errorOf i <;> simp [of, herror]

end Delivery

namespace Session

variable {s : Session} {n m : Text} {st : SessionStep} {steps : List SessionStep}

/-- The same session with another sink, or with none, after `i` writes to it. -/
def withSink (s : Session) (x : Option AuditSink) (i : Nat) : Session :=
  { s with sink := x, attempts := i }

variable {x : Option AuditSink} {i : Nat}

/-! ## One step -/

theorem withContext_withSink {f f' : RequestContext → Session × SessionReaction}
    (h : ∀ c, f' c = ((f c).1.withSink x i, (f c).2)) :
    (s.withSink x i).withContext n f' =
      ((s.withContext n f).1.withSink x i, (s.withContext n f).2) := by
  have hcontexts : (s.withSink x i).contexts = s.contexts := rfl
  unfold withContext
  rw [hcontexts]
  cases s.contexts.lookup n with
  | none => rfl
  | some c => exact h c

theorem withTarget_withSink {f f' : Option TargetService → Session × SessionReaction}
    (h : ∀ t, f' t = ((f t).1.withSink x i, (f t).2)) :
    (s.withSink x i).withTarget m f' =
      ((s.withTarget m f).1.withSink x i, (s.withTarget m f).2) := by
  have htargets : (s.withSink x i).targets = s.targets := rfl
  unfold withTarget
  rw [htargets]
  cases s.targets.lookup m with
  | none => rfl
  | some t => exact h t

theorem call?_withSink (s : Session) (x : Option AuditSink) (i : Nat) (st : SessionStep) :
    (s.withSink x i).call? st = s.call? st := by
  cases st <;> rfl

/-- A step that makes no call does not notice the sink at all. -/
theorem step_withSink_of_no_call (h : s.call? st = none) (x : Option AuditSink) (i : Nat) :
    (s.withSink x i).step st = ((s.step st).1.withSink x i, (s.step st).2) := by
  cases st with
  | resolve n m p =>
    cases hc : s.contexts.lookup n with
    | none =>
      have hc' : (s.withSink x i).contexts.lookup n = none := hc
      simp only [step, withContext, hc, hc']
      rfl
    | some c =>
      have hc' : (s.withSink x i).contexts.lookup n = some c := hc
      cases ht : s.targets.lookup m with
      | none =>
        have ht' : (s.withSink x i).targets.lookup m = none := ht
        simp only [step, withContext, withTarget, hc, hc', ht, ht']
        rfl
      | some t =>
        simp only [call?, hc, ht] at h
        cases h
  | verify method n m =>
    refine withTarget_withSink fun t => ?_
    cases t with
    | none => rfl
    | some t => exact withContext_withSink fun c => rfl
  | attach m r =>
    refine withTarget_withSink fun t => ?_
    cases t with
    | none => rfl
    | some t =>
      dsimp only
      cases t.attach? r <;> rfl
  | showTarget m => exact withTarget_withSink fun t => rfl
  | addAuthentication ticket a =>
    have hstore : (s.withSink x i).store = s.store := rfl
    unfold step
    dsimp only
    rw [hstore]
    cases s.store <;> rfl
  | getAuthentication ticket =>
    have hstore : (s.withSink x i).store = s.store := rfl
    unfold step
    dsimp only
    rw [hstore]
    cases s.store.store? with
    | none => rfl
    | some store =>
      dsimp only
      cases store.find ticket <;> rfl
  | findService id =>
    have hservices : (s.withSink x i).services = s.services := rfl
    unfold step
    dsimp only
    rw [hservices]
    cases s.services.find id <;> rfl
  | request _ _ | target _ _ | chain => rfl
  | _ => exact withContext_withSink fun c => rfl

/-- A step that makes a call makes it whatever the sink, which is only handed its event. -/
theorem step_withSink_of_call {k : Call} (h : s.call? st = some k) (x : Option AuditSink)
    (i : Nat) :
    let d := Delivery.of x i k.resolution.event
    (s.withSink x i).step st = ((s.step st).1.withSink x d.attempts,
      ⟨(s.step st).2.answer, k.resolution.records ++ d.records, d.written⟩) := by
  obtain ⟨n, m, hn, hm, hchain, hstep⟩ := step_of_call h
  obtain ⟨n', m', hn', hm', -, hstep'⟩ := step_of_call ((s.call?_withSink x i st).trans h)
  cases hn.symm.trans hn'
  cases hm.symm.trans hm'
  rw [hstep, hstep', Call.resolution, hchain]
  rfl

/-- Whatever the sink, a step answers the same and leaves the same behind. -/
theorem step_withSink (s : Session) (x : Option AuditSink) (i : Nat) (st : SessionStep) :
    ∃ j, ((s.withSink x i).step st).1 = (s.step st).1.withSink x j ∧
      ((s.withSink x i).step st).2.answer = (s.step st).2.answer := by
  cases h : s.call? st with
  | none =>
    rw [step_withSink_of_no_call h]
    exact ⟨i, rfl, rfl⟩
  | some k =>
    rw [step_withSink_of_call h]
    exact ⟨_, rfl, rfl⟩

/-- What a step hands to the sink, if there is one: the event of the call that it makes. -/
def offered (s : Session) (st : SessionStep) : List AuditEvent := Call.events (s.call? st).toList

theorem offered_withSink (s : Session) (x : Option AuditSink) (i : Nat) (st : SessionStep) :
    (s.withSink x i).offered st = s.offered st := by
  rw [offered, offered, call?_withSink]

theorem offered_of_call {k : Call} (h : s.call? st = some k) :
    s.offered st = k.resolution.event.toList := by
  rw [offered, h, Option.toList_some, Call.events, List.flatMap_singleton]

theorem offered_of_no_call (h : s.call? st = none) : s.offered st = [] := by
  rw [offered, h, Option.toList_none, Call.events, List.flatMap_nil]

theorem length_offered_le (s : Session) (st : SessionStep) : (s.offered st).length ≤ 1 := by
  cases h : s.call? st with
  | none => simp [offered_of_no_call h]
  | some k =>
    rw [offered_of_call h]
    cases k.resolution.event <;> simp

theorem step_withSink_none (s : Session) (i : Nat) (st : SessionStep) :
    ((s.withSink none i).step st).1 = (s.step st).1.withSink none i := by
  cases h : s.call? st with
  | none => rw [step_withSink_of_no_call h]
  | some k =>
    rw [step_withSink_of_call h]
    cases k.resolution.event <;> rfl

/-- A sink is asked to write what it is handed. -/
theorem step_withSink_some (s : Session) (sink : AuditSink) (i : Nat) (st : SessionStep) :
    ((s.withSink (some sink) i).step st).1 =
      (s.step st).1.withSink (some sink) (i + (s.offered st).length) := by
  cases h : s.call? st with
  | none =>
    rw [step_withSink_of_no_call h, offered_of_no_call h]
    rfl
  | some k => rw [step_withSink_of_call h, offered_of_call h, ← Delivery.attempts_of_some]

/-- With a sink a step records what it records without, and one error for each write that
fails. -/
theorem step_records_withSink (s : Session) (sink : AuditSink) (i j : Nat) (st : SessionStep) :
    ((s.withSink (some sink) i).step st).2.records =
      ((s.withSink none j).step st).2.records ++ Delivery.failures sink i (s.offered st) := by
  cases h : s.call? st with
  | none =>
    rw [step_withSink_of_no_call h, step_withSink_of_no_call h, offered_of_no_call h]
    exact (List.append_nil _).symm
  | some k =>
    have hnone : (Delivery.of none j k.resolution.event).records = [] := by
      cases k.resolution.event <;> rfl
    rw [step_withSink_of_call h, step_withSink_of_call h, offered_of_call h]
    dsimp only
    rw [hnone, List.append_nil, Delivery.records_of_some]

theorem step_audit_of_working (s : Session) (i : Nat) (st : SessionStep) :
    ((s.withSink (some .working) i).step st).2.audit = s.offered st := by
  rw [step_audit, call?_withSink]
  rfl

/-! ## A run -/

/-- What a run shows and leaves to its clients: after each step the answer, the contexts and the
targets. -/
def observations (s : Session) (steps : List SessionStep) :
    List (Except SessionFault SessionReply × List (Text × RequestContext) ×
      List (Text × Option TargetService)) :=
  (s.run steps).map fun y => (y.2.answer, y.1.contexts, y.1.targets)

/-- What each step of a run records. -/
def recorded (s : Session) (steps : List SessionStep) : List (List LogRecord) :=
  (s.run steps).map fun y => y.2.records

/-- What each step of a run writes to the sink. -/
def written (s : Session) (steps : List SessionStep) : List (List AuditEvent) :=
  (s.run steps).map fun y => y.2.audit

/-- What each step of a run hands to the sink, if there is one. -/
def offers (s : Session) : List SessionStep → List (List AuditEvent)
  | [] => []
  | st :: rest => s.offered st :: (s.step st).1.offers rest

theorem observations_withSink (s : Session) (x : Option AuditSink) (i : Nat)
    (steps : List SessionStep) : (s.withSink x i).observations steps = s.observations steps := by
  induction steps generalizing s i with
  | nil => rfl
  | cons st rest ih =>
    obtain ⟨j, hnext, hanswer⟩ := s.step_withSink x i st
    have hrest := ih (s.step st).1 j
    unfold observations at hrest ⊢
    rw [run, run, List.map_cons, List.map_cons, hnext, hanswer, hrest]
    rfl

/-- The calls of a run, and so their events, are the same whatever the sink. -/
theorem offers_withSink (s : Session) (x : Option AuditSink) (i : Nat)
    (steps : List SessionStep) : (s.withSink x i).offers steps = s.offers steps := by
  induction steps generalizing s i with
  | nil => rfl
  | cons st rest ih =>
    obtain ⟨j, hnext, -⟩ := s.step_withSink x i st
    rw [offers, offers, offered_withSink, hnext, ih]

theorem written_of_working (s : Session) (i : Nat) (steps : List SessionStep) :
    (s.withSink (some .working) i).written steps = s.offers steps := by
  induction steps generalizing s i with
  | nil => rfl
  | cons st rest ih =>
    have hrest := ih (s.step st).1 (i + (s.offered st).length)
    unfold written at hrest ⊢
    rw [run, List.map_cons, step_audit_of_working, step_withSink_some, hrest, offers]

theorem recorded_withSink (s : Session) (sink : AuditSink) (i j : Nat)
    (steps : List SessionStep) :
    (s.withSink (some sink) i).recorded steps =
      List.zipWith (· ++ ·) ((s.withSink none j).recorded steps)
        (Delivery.failuresByStep sink i (s.offers steps)) := by
  induction steps generalizing s i j with
  | nil => rfl
  | cons st rest ih =>
    have hrest := ih (s.step st).1 (i + (s.offered st).length) j
    unfold recorded at hrest ⊢
    simp only [run, List.map_cons, step_withSink_some, step_withSink_none, offers,
      Delivery.failuresByStep, List.zipWith_cons_cons, hrest]
    rw [step_records_withSink]

theorem recorded_of_working (s : Session) (i j : Nat) (steps : List SessionStep) :
    (s.withSink (some .working) i).recorded steps = (s.withSink none j).recorded steps := by
  induction steps generalizing s i with
  | nil => rfl
  | cons st rest ih =>
    have hrest := ih (s.step st).1 (i + (s.offered st).length)
    have hrecords := s.step_records_withSink .working i j st
    rw [Delivery.failures_of_working, List.append_nil] at hrecords
    unfold recorded at hrest ⊢
    simp only [run, List.map_cons, step_withSink_some, step_withSink_none, hrest, hrecords]

theorem length_le_of_mem_offers {es : List AuditEvent} (h : es ∈ s.offers steps) :
    es.length ≤ 1 := by
  induction steps generalizing s with
  | nil => cases h
  | cons st rest ih =>
    rcases List.mem_cons.mp h with rfl | h
    · exact s.length_offered_le st
    · exact ih h

/-- **Audit logging never influences a decision.** Take a run without a sink, with a sink that
works and with one that fails at any of its writes, with any text. After each step all three have
the same answer, contexts and targets. The first two record the same; the third records the same
and, for each event that the second writes and the third fails to, one error right behind what
else the step records. What the second writes, step by step, are the events of the calls that the
first makes. A step has at most one event. -/
theorem audit_never_influences (s : Session) (sink : AuditSink) (i : Nat)
    (steps : List SessionStep) :
    let silent := s.withSink none i
    let working := s.withSink (some .working) i
    let faulty := s.withSink (some sink) i
    let failed := Delivery.failuresByStep sink i (working.written steps)
    (working.observations steps = silent.observations steps ∧
        faulty.observations steps = silent.observations steps) ∧
      working.recorded steps = silent.recorded steps ∧
      (faulty.recorded steps = List.zipWith (· ++ ·) (silent.recorded steps) failed ∧
        ∀ xs ∈ failed, ∀ x ∈ xs, x.level = .error) ∧
      working.written steps = silent.offers steps ∧
      ∀ es ∈ working.written steps, es.length ≤ 1 := by
  intro silent working faulty failed
  have hobservations (x : Option AuditSink) := s.observations_withSink x i steps
  have hwritten : working.written steps = s.offers steps := s.written_of_working i steps
  refine ⟨⟨?_, ?_⟩, s.recorded_of_working i i steps, ⟨?_, ?_⟩, ?_, ?_⟩
  · exact (hobservations _).trans (hobservations _).symm
  · exact (hobservations _).trans (hobservations _).symm
  · have hrecorded := s.recorded_withSink sink i i steps
    rwa [← hwritten] at hrecorded
  · intro xs hxs x hx
    exact Delivery.level_of_mem_failuresByStep hxs hx
  · exact hwritten.trans (s.offers_withSink none i steps).symm
  · intro es hes
    rw [hwritten] at hes
    exact length_le_of_mem_offers hes

end Session

end StepUp
