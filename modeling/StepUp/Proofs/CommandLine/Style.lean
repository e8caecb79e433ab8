import Mathlib.Data.List.Basic
import StepUp.CommandLine.Style
import StepUp.Proofs.Json.Spelling

/-!
# Output without its styles

Control sequences are taken out one by one: a control sequence begins with an escape character,
and so does the end of every style, so that what stands before an escape character is stripped for
itself (`strip_append_escape`). A styled text is therefore stripped to what is left of the text
itself (`strip_apply_append`). A text without an escape character has nothing to take out
(`strip_of_unescaped`).
-/

namespace StepUp.Style

/-- Nothing in the text begins a control sequence. -/
def Unescaped (t : Text) : Prop := escape ∉ t

instance (t : Text) : Decidable (Unescaped t) := inferInstanceAs (Decidable (escape ∉ t))

theorem Unescaped.append {t u : Text} (ht : Unescaped t) (hu : Unescaped u) :
    Unescaped (t ++ u) := by
  simp only [Unescaped, List.mem_append, not_or]
  exact ⟨ht, hu⟩

theorem unescaped_of_plain {t : Text} (h : ∀ c ∈ t, c.Plain) : Unescaped t := by
  intro hmem
  have hplain : ¬ escape.Plain := by decide
  exact hplain (h escape hmem)

/-! ## Stripping -/

/-- An escape character ends whatever was pending. -/
theorem stripFrom_escape (pending rest : Text) :
    stripFrom pending (escape :: rest) = pending ++ strip (escape :: rest) := by
  have hstrip : strip (escape :: rest) = stripFrom [escape] rest := rfl
  rw [hstrip]
  match pending with
  | [] => rfl
  | [e] => rfl
  | _ :: _ :: _ => rfl

theorem stripFrom_append_escape (pending t rest : Text) :
    stripFrom pending (t ++ escape :: rest) =
      stripFrom pending t ++ strip (escape :: rest) := by
  induction t generalizing pending with
  | nil =>
    rw [List.nil_append, stripFrom_escape]
    rfl
  | cons c t ih =>
    rw [List.cons_append]
    match pending with
    | [] =>
      simp only [stripFrom]
      split <;> simp only [ih, List.cons_append]
    | [e] =>
      simp only [stripFrom]
      split
      · exact ih _
      · split <;> simp only [ih, List.cons_append]
    | _ :: _ :: _ =>
      simp only [stripFrom]
      split
      · exact ih _
      · split
        · exact ih _
        · split <;> simp only [ih, List.cons_append, List.append_assoc]

/-- What stands before an escape character is stripped for itself. -/
theorem strip_append_escape (t rest : Text) :
    strip (t ++ escape :: rest) = strip t ++ strip (escape :: rest) :=
  stripFrom_append_escape [] t rest

theorem Unescaped.strip_append {t : Text} (h : Unescaped t) (rest : Text) :
    strip (t ++ rest) = t ++ strip rest := by
  induction t with
  | nil => rfl
  | cons c t ih =>
    simp only [Unescaped, List.mem_cons, not_or] at h
    have hc : c ≠ escape := Ne.symm h.1
    have hstep : strip (c :: (t ++ rest)) = c :: strip (t ++ rest) := if_neg hc
    rw [List.cons_append, hstep, ih h.2]
    rfl

theorem strip_of_unescaped {t : Text} (h : Unescaped t) : strip t = t := by
  simpa [strip, stripFrom] using h.strip_append []

theorem strip_code_append (s : Style) (t : Text) : strip (s.code ++ t) = strip t := by
  cases s <;> rfl

theorem strip_reset_append (t : Text) : strip (reset ++ t) = strip t := rfl

/-- The sequences of a style are taken out, and the text between them is stripped for itself. -/
theorem strip_apply_append (s : Style) (t rest : Text) :
    strip (s.apply t ++ rest) = strip t ++ strip rest := by
  have hreset : strip (t ++ (reset ++ rest)) = strip t ++ strip (reset ++ rest) :=
    strip_append_escape t _
  rw [apply, List.append_assoc, List.append_assoc, strip_code_append, hreset, strip_reset_append]

theorem strip_apply (s : Style) (t : Text) : strip (s.apply t) = strip t := by
  have h := strip_apply_append s t []
  rwa [List.append_nil, show strip [] = [] from rfl, List.append_nil] at h

end StepUp.Style
