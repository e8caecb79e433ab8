import Mathlib.Algebra.Order.BigOperators.Group.List
import Mathlib.Algebra.Order.Ring.Nat
import StepUp.Audit.Event
import StepUp.Log.Record
import StepUp.Proofs.Json.Spelling
import StepUp.Requirement

/-!
# What the system log says

A resolution explains itself in a fixed number of ways. `Notice` lists them with the texts that each
of them quotes: names from the configuration, values from the request and from the user, and errors.
The words around these are characters from space to tilde (`Notice.plain_of_said`), so a message has
a line break just if a text that it quotes has one (`Notice.unbroken_iff`).

Lines of the console that end with a line break are told apart by the line breaks just if there is
no other (`Notice.splitOnP_lines_iff`, `Notice.countP_lines_iff`).
-/

namespace StepUp

/-- A part of a message: words of the log itself, or a text from elsewhere. -/
inductive Piece where
  | said (t : Text)
  | quoted (t : Text)

namespace Piece

def text : Piece → Text
  | .said t => t
  | .quoted t => t

def quoted? : Piece → Option Text
  | .said _ => none
  | .quoted t => some t

/-- Words of the log itself have only characters from space to tilde. -/
def isSound : Piece → Bool
  | .said t => t.all fun c => decide c.Plain
  | .quoted _ => true

end Piece

inductive Notice where
  | asked (parameter method : Text)
  | deferred (service : Text)
  | defaulted (service method : Text)
  | unregistered (service : Text)
  | found (name value principal : Text)
  | ignored (name value principal : Text)
  | noTicket
  | noAuthentication
  | unmatched (service : Text)
  | matched (role method service : Text)
  | incomplete (service : Text)
  | unusable (service method : Text)
  | malformed (service pattern complaint : Text)
  | unsupported (method : Text)
  | suppressed (method : Text)
  | ended (outcome : Outcome) (method : Option Text) (source : Option Source)
  | unwritten (error : Text)

namespace Notice

def level : Notice → Level
  | .ignored _ _ _ | .matched _ _ _ | .unusable _ _ => .info
  | .malformed _ _ _ => .warning
  | .unwritten _ => .error
  | _ => .debug

def event : Notice → Text
  | .asked _ _ => "method_from_request_parameter"
  | .deferred _ => "service_defers_to_mfa_roles"
  | .defaulted _ _ => "service_default_method"
  | .unregistered _ => "service_not_registered"
  | .found _ _ _ => "method_from_principal_attribute"
  | .ignored _ _ _ => "principal_method_unsupported"
  | .noTicket => "mfa_role_no_ticket"
  | .noAuthentication => "mfa_role_no_authentication"
  | .unmatched _ => "mfa_role_no_match"
  | .matched _ _ _ => "mfa_role_matched"
  | .incomplete _ => "mfa_role_rule_incomplete"
  | .unusable _ _ => "mfa_role_method_unsupported"
  | .malformed _ _ _ => "mfa_role_pattern_invalid"
  | .unsupported _ => "unsupported_authentication_method"
  | .suppressed _ => "unsupported_authentication_method_suppressed"
  | .ended _ _ _ => "mfa_resolution"
  | .unwritten _ => "resolution_log_failed"

open Piece in
def pieces : Notice → List Piece
  | .asked parameter method =>
    [said "Request parameter '", quoted parameter, said "' asks for '", quoted method, said "'"]
  | .deferred service => [said "Service '", quoted service, said "' declares role rules, deferring"]
  | .defaulted service method =>
    [said "Service '", quoted service, said "' declares no method, using default '",
      quoted method, said "'"]
  | .unregistered service => [said "No registered service for '", quoted service, said "'"]
  | .found name value principal =>
    [said "Found attribute '", quoted name, said "' = '", quoted value,
      said "' for principal '", quoted principal, said "'"]
  | .ignored name value principal =>
    [said "Attribute '", quoted name, said "' value '", quoted value, said "' of principal '",
      quoted principal, said "' is not a supported method, ignoring"]
  | .noTicket => [said "No ticket-granting ticket in flow scope, skipping role rules"]
  | .noAuthentication => [said "No active authentication for ticket, skipping role rules"]
  | .unmatched service => [said "No role rule of service '", quoted service, said "' matched"]
  | .matched role method service =>
    [said "Role '", quoted role, said "' requires '", quoted method, said "' for service '",
      quoted service, said "'"]
  | .incomplete service =>
    [said "Service '", quoted service, said "' has an incomplete role rule"]
  | .unusable service method =>
    [said "Service '", quoted service, said "' role rule names unsupported method '",
      quoted method, said "'"]
  | .malformed service pattern complaint =>
    [said "Service '", quoted service, said "' has invalid role pattern '", quoted pattern,
      said "': ", quoted complaint]
  | .unsupported method =>
    [said "Authentication method '", quoted method, said "' is not supported"]
  | .suppressed method =>
    [said "Rejection of '", quoted method, said "' already reported for this request"]
  | .ended outcome method source =>
    [said "Resolution outcome '", said outcome.text, said "'"]
      ++ (match method with
        | some m => [said " for method '", quoted m, said "'"]
        | none => [])
      ++ (match source with
        | some s => [said " from ", said s.text]
        | none => [])
  | .unwritten error => [said "Failed to write resolution event: ", quoted error]

def message (n : Notice) : Text := n.pieces.flatMap Piece.text

/-- The texts from elsewhere. -/
def quoted (n : Notice) : List Text := n.pieces.filterMap Piece.quoted?

/-- How the console shows the notice, without the line break at the end. -/
def line (n : Notice) : Text := n.level.text ++ ": " ++ n.message

/-! ## Line breaks -/

variable {n : Notice} {notices : List Notice} {brk : CodePoint → Bool}

/-- The texts that the notice quotes have no line breaks. -/
def Unbroken (brk : CodePoint → Bool) (n : Notice) : Prop := ∀ t ∈ n.quoted, ∀ c ∈ t, brk c = false

theorem sound_pieces (n : Notice) : n.pieces.all Piece.isSound = true := by
  cases n with
  | ended outcome method source =>
    simp only [pieces, List.all_append, Bool.and_eq_true]
    refine ⟨⟨?_, ?_⟩, ?_⟩
    · cases outcome <;> rfl
    · cases method <;> rfl
    · cases source with
      | none => rfl
      | some s => cases s <;> rfl
  | _ => rfl

theorem plain_of_said {t : Text} (h : .said t ∈ n.pieces) : ∀ c ∈ t, c.Plain := by
  have hsound := List.all_eq_true.mp n.sound_pieces _ h
  simpa [Piece.isSound] using hsound

/-- A message has a line break just if it quotes one. -/
theorem unbroken_iff (hplain : ∀ c : CodePoint, c.Plain → brk c = false) :
    n.Unbroken brk ↔ ∀ c ∈ n.message, brk c = false := by
  constructor
  · intro h c hc
    obtain ⟨piece, hpiece, hc⟩ := List.mem_flatMap.mp hc
    cases piece with
    | said t => exact hplain c (plain_of_said hpiece c hc)
    | quoted t => exact h t (List.mem_filterMap.mpr ⟨_, hpiece, rfl⟩) c hc
  · intro h t ht c hc
    obtain ⟨piece, hpiece, hquoted⟩ := List.mem_filterMap.mp ht
    cases piece with
    | said _ => cases hquoted
    | quoted _ =>
      cases hquoted
      exact h c (List.mem_flatMap.mpr ⟨_, hpiece, hc⟩)

/-! ## Lines -/

/-- The text of some notices on the console. -/
def console (notices : List Notice) : Text := notices.flatMap fun n => n.line ++ "\n"

theorem line_unbroken_iff (hplain : ∀ c : CodePoint, c.Plain → brk c = false) :
    (∀ c ∈ n.line, brk c = false) ↔ n.Unbroken brk := by
  have hlevel : ∀ l : Level, ∀ c ∈ l.text ++ ": ", c.Plain := by
    intro l
    cases l <;> decide
  rw [unbroken_iff hplain, line, List.forall_mem_append]
  exact and_iff_right fun c hc => hplain c (hlevel n.level c hc)

/-- There are as many line breaks as notices just if no notice quotes one. -/
theorem countP_console_iff (hbreak : brk '\n' = true)
    (hplain : ∀ c : CodePoint, c.Plain → brk c = false) :
    (console notices).countP brk = notices.length ↔ ∀ n ∈ notices, n.Unbroken brk := by
  have hcount : (console notices).countP brk =
      (notices.map fun n => n.line.countP brk).sum + notices.length := by
    induction notices with
    | nil => rfl
    | cons n rest ih =>
      have hone : ("\n" : Text).countP brk = 1 := by simp [Text.ofString, hbreak]
      rw [console, List.flatMap_cons, List.countP_append, ← console, ih, List.countP_append, hone,
        List.map_cons, List.sum_cons, List.length_cons]
      omega
  rw [hcount, Nat.add_eq_right, List.sum_eq_zero_iff, List.forall_mem_map]
  refine forall₂_congr fun n _ => ?_
  rw [List.countP_eq_zero, ← line_unbroken_iff hplain]
  simp only [Bool.not_eq_true]

theorem length_splitOnP (brk : CodePoint → Bool) (t : Text) :
    (t.splitOnP brk).length = t.countP brk + 1 := by
  induction t with
  | nil => simp
  | cons c rest ih =>
    rw [List.splitOnP_cons_eq_if_modifyHead, List.countP_cons]
    split <;> simp [ih]

/-- Splitting at line breaks gives the line of each notice just if no notice quotes one. -/
theorem splitOnP_console_iff (hbreak : brk '\n' = true)
    (hplain : ∀ c : CodePoint, c.Plain → brk c = false) :
    (console notices).splitOnP brk = notices.map line ++ [[]] ↔
      ∀ n ∈ notices, n.Unbroken brk := by
  constructor
  · intro h
    have hlength := congrArg List.length h
    rw [length_splitOnP, List.length_append, List.length_map, List.length_singleton,
      Nat.add_right_cancel_iff] at hlength
    exact (countP_console_iff hbreak hplain).mp hlength
  · intro h
    induction notices with
    | nil => rfl
    | cons n rest ih =>
      obtain ⟨hn, hrest⟩ := List.forall_mem_cons.mp h
      have hline : console (n :: rest) = n.line ++ CodePoint.ofChar '\n' :: console rest := by
        rw [console, List.flatMap_cons, List.append_assoc]
        rfl
      rw [hline, List.splitOnP_append_cons_of_forall_mem ((line_unbroken_iff hplain).mpr hn) _
        hbreak, ih hrest, List.map_cons, List.cons_append]

end Notice

/-- The record tells the notice. -/
structure LogRecord.Tells (x : LogRecord) (n : Notice) : Prop where
  level : x.level = n.level
  event : x.event = n.event
  message : x.message = n.message

end StepUp
