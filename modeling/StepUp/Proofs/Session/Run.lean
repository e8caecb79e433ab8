import StepUp.Proofs.Session.Step

/-!
# The course of a run

A run is looked at position by position: `before` is the session that it has come to, `answerAt`
what the step there answers. `run_getElem?` says that these are what the run consists of, and
`before_of_step` carries what every step preserves through the run.
-/

namespace StepUp

namespace Session

variable {s : Session} {steps : List SessionStep} {i : Nat} {st : SessionStep}

/-- The session that a run has come to before the step at a position. -/
def before (s : Session) (steps : List SessionStep) (i : Nat) : Session :=
  (steps.take i).foldl (fun s st => (s.step st).1) s

/-- What the step at a position of a run answers. -/
def answerAt (s : Session) (steps : List SessionStep) (i : Nat) :
    Option (Except SessionFault SessionReply) :=
  (s.run steps)[i]?.map fun x => x.2.answer

theorem before_succ (h : steps[i]? = some st) :
    s.before steps (i + 1) = ((s.before steps i).step st).1 := by
  simp [before, List.take_add_one, h, List.foldl_append]

theorem before_succ_of_none (h : steps[i]? = none) :
    s.before steps (i + 1) = s.before steps i := by
  simp [before, List.take_add_one, h]

/-- A position of a run holds what the step there gives, taken in the session before it. -/
theorem run_getElem? (s : Session) (steps : List SessionStep) (i : Nat) :
    (s.run steps)[i]? = steps[i]?.map (s.before steps i).step := by
  induction steps generalizing s i with
  | nil => rfl
  | cons st rest ih =>
    cases i with
    | zero => rfl
    | succ i =>
      have hbefore : s.before (st :: rest) (i + 1) = (s.step st).1.before rest i := rfl
      rw [hbefore, run, List.getElem?_cons_succ, List.getElem?_cons_succ]
      exact ih (s.step st).1 i

theorem answerAt_of_getElem? (h : steps[i]? = some st) :
    s.answerAt steps i = some ((s.before steps i).step st).2.answer := by
  simp [answerAt, run_getElem?, h]

/-- What holds at the start and is preserved by the steps of a run holds all along. -/
theorem before_of_step {P : Session → Prop} (hs : P s)
    (hstep : ∀ s st, st ∈ steps → P s → P (s.step st).1) (i : Nat) : P (s.before steps i) := by
  induction i with
  | zero => exact hs
  | succ i ih =>
    cases h : steps[i]? with
    | none => exact before_succ_of_none h ▸ ih
    | some st => exact before_succ h ▸ hstep _ st (List.mem_of_getElem? h) ih

theorem before_assemble (s : Session) (steps : List SessionStep) (i : Nat) :
    (s.before steps i).assemble = s.assemble :=
  before_of_step (P := fun s' => s'.assemble = s.assemble) rfl
    (fun s' st _ h => (s'.step_assemble st).trans h) i

end Session

end StepUp
