import StepUp.Log.Location
import StepUp.Proofs.File.Growth

/-!
# The log files are told apart

Wherever the log directories are, the file of the audit log and that of the system log have names
of their own. A path ends in the name of its file, before and after `..` is resolved
(`Path.getLast?_normal`), so does the place it leads to, and so does the text of it: no two log
files of different kinds share a place or are called the same in the text of an error.
-/

namespace StepUp

namespace Path

variable {p : Path} {name : Text}

/-! ## The last part -/

theorem normalParts_concat (hname : name ≠ "..") (before parts : List Text) :
    normalParts before (parts ++ [name]) = normalParts before parts ++ [name] := by
  induction parts generalizing before with
  | nil =>
    have hbne : (name != "..") = true := bne_iff_ne.mpr hname
    simp only [List.nil_append, normalParts, hbne, if_true]
  | cons part rest ih =>
    rw [List.cons_append, normalParts, normalParts]
    split
    · exact ih _
    · split
      · split <;> exact ih _
      · exact ih _

theorem getLast?_normal (h : p.parts.getLast? = some name) (hname : name ≠ "..") :
    p.normal.parts.getLast? = some name := by
  obtain ⟨before, hparts⟩ := List.getLast?_eq_some_iff.mp h
  have hup : (name == "..") = false := beq_false_of_ne hname
  unfold normal
  dsimp only
  rw [hparts, normalParts_concat hname]
  split
  · exact List.getLast?_concat
  · rw [List.dropWhile_append]
    split
    · rw [List.dropWhile_cons, hup]
      rfl
    · exact List.getLast?_concat

theorem suffix_join {before : List Text} :
    name <:+ Text.join "/" (before ++ [name]) := by
  induction before with
  | nil => simp [Text.join, List.intercalate]
  | cons part rest ih =>
    refine ih.trans ?_
    rw [List.cons_append]
    cases hrest : rest ++ [name] with
    | nil => simp at hrest
    | cons next more =>
      refine ⟨part ++ "/", ?_⟩
      simp [Text.join, List.intercalate]

/-- The text of a path ends in its last part. -/
theorem suffix_text (h : p.parts.getLast? = some name) : name <:+ p.text := by
  obtain ⟨before, hparts⟩ := List.getLast?_eq_some_iff.mp h
  unfold text
  rw [hparts, if_neg (by simp)]
  exact suffix_join.trans (List.suffix_append _ _)

end Path

namespace LoggingConfig

variable {dir : Path}

/-! ## The two files -/

def auditName : Text := "resolutions.jsonl"

def systemName : Text := "system.jsonl"

/-- The path by which the audit log is opened below a log directory. -/
def auditPath (dir : Path) : Path := (dir.append auditFile).normal

/-- The path by which the system log is opened below a log directory. -/
def systemPath (dir : Path) : Path := (dir.append systemFile).normal

/-- The audit file of a configuration, if it names a log directory. -/
def auditPath? (homes : Homes) (c : LoggingConfig) : Option Path :=
  match c.directory? homes with
  | .ok (some dir) => some (auditPath dir)
  | _ => none

theorem getLast?_append {file : Path} {name : Text} (hroot : file.root.isEmpty = true)
    (hfile : file.parts.getLast? = some name) : (dir.append file).parts.getLast? = some name := by
  obtain ⟨before, hparts⟩ := List.getLast?_eq_some_iff.mp hfile
  rw [Path.append, if_pos hroot]
  dsimp only
  rw [hparts, ← List.append_assoc, List.getLast?_concat]

theorem getLast?_auditPath (dir : Path) : (auditPath dir).parts.getLast? = some auditName :=
  Path.getLast?_normal (getLast?_append (by decide) (by decide)) (by decide)

theorem getLast?_systemPath (dir : Path) : (systemPath dir).parts.getLast? = some systemName :=
  Path.getLast?_normal (getLast?_append (by decide) (by decide)) (by decide)

theorem place_auditPath (dir : Path) : (auditPath dir).place.getLast? = some auditName :=
  FileTree.getLast?_place (getLast?_auditPath dir) (by decide)

theorem place_systemPath (dir : Path) : (systemPath dir).place.getLast? = some systemName :=
  FileTree.getLast?_place (getLast?_systemPath dir) (by decide)

/-- No system file is called like an audit file. -/
theorem text_systemPath_ne (dir dir' : Path) : (systemPath dir).text ≠ (auditPath dir').text := by
  intro h
  have hsystem : systemName <:+ (auditPath dir').text :=
    h ▸ Path.suffix_text (getLast?_systemPath dir)
  have haudit := Path.suffix_text (getLast?_auditPath dir')
  have hsuffix : systemName <:+ auditName :=
    List.suffix_of_suffix_length_le hsystem haudit (by decide)
  revert hsuffix
  decide

end LoggingConfig

end StepUp
