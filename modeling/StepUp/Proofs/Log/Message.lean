import Mathlib
import StepUp.Proofs.Log.Line

/-!
# What a line of a log file tells

A dictionary that is logged is written behind the time, as one object on one line. Where the keys
are distinct, none of them is `time`, and there are neither floating point numbers nor surrogates
nor integers of too many digits (`LogMessage.Lossless`), the line is read back as just that object
(`LogMessage.Lossless.parse_jsonLine`). Nothing in a dictionary can hence pass for a further entry
or a further line, and no two dictionaries share a line (`LogMessage.lossless_line`).
-/

namespace StepUp

namespace LogMessage

variable {entries : List (Text × Json)}

/-- A dictionary of which nothing gets lost. -/
structure Lossless (entries : List (Text × Json)) : Prop where
  regular : (Json.obj entries).Regular Json.Exact
  untimed : ("time" : Text) ∉ entries.map Prod.fst

/-- The entries of a dictionary behind the time. -/
def timed (now : Instant) (entries : List (Text × Json)) : List (Text × Json) :=
  ("time", .str now.render) :: entries

namespace Lossless

theorem distinct_timed (h : Lossless entries) (now : Instant) :
    ((timed now entries).map Prod.fst).Nodup := by
  cases h.regular with
  | leaf hleaf => cases hleaf
  | obj hdistinct _ _ => exact List.nodup_cons.mpr ⟨h.untimed, hdistinct⟩

theorem regular_timed (h : Lossless entries) (now : Instant) :
    (Json.obj (timed now entries)).Regular Json.Exact := by
  have hdistinct := h.distinct_timed now
  have htime : (Json.str now.render).Exact := Text.unicode_of_plain now.plain_render
  cases h.regular with
  | leaf hleaf => cases hleaf
  | obj _ hkeys hvalues =>
    refine .obj hdistinct (List.forall_mem_cons.mpr ⟨?_, hkeys⟩)
      (List.forall_mem_cons.mpr ⟨.leaf htime, hvalues⟩)
    show Text.Unicode "time"
    decide

theorem jsonLine_eq (h : Lossless entries) (now : Instant) :
    (fields entries).jsonLine now.render = (Json.obj (timed now entries)).render :=
  congrArg Json.render (Json.ofEntries_of_nodup (h.distinct_timed now))

theorem parse_jsonLine (h : Lossless entries) (now : Instant) :
    Json.parse ((fields entries).jsonLine now.render) = .ok (.obj (timed now entries)) := by
  rw [h.jsonLine_eq, Json.parse_render (h.regular_timed now)]

end Lossless

/-- **A line of a log file cannot be forged and loses nothing.** Whatever the time, the line of a
dictionary has only characters from space to tilde, so that it is one line; and it is read as the
time, followed by the entries of the dictionary in their order. Of two dictionaries that give the
same line the entries are the same, and so is what is told of the time. -/
theorem lossless_line {entries : List (Text × Json)} (h : Lossless entries) (now : Instant) :
    let line := (fields entries).jsonLine now.render
    (∀ c ∈ line, 0x20 ≤ c.val ∧ c.val ≤ 0x7E) ∧
      Json.parse line = .ok (.obj (("time", .str now.render) :: entries)) ∧
      ∀ others then', Lossless others → (fields others).jsonLine (Instant.render then') = line →
        others = entries ∧ then'.render = now.render := by
  intro line
  refine ⟨fun c hc => ?_, h.parse_jsonLine now, fun others then' hothers hsame => ?_⟩
  · obtain ⟨hlow, hhigh⟩ := plain_jsonLine now.render (fields entries) c hc
    exact ⟨hlow, Nat.le_of_lt_succ hhigh⟩
  · have hread := (h.parse_jsonLine now).symm.trans
      ((congrArg Json.parse hsame.symm).trans (hothers.parse_jsonLine then'))
    injection hread with hobject
    injection hobject with hentries
    injection hentries with htime hsame
    injection htime with _ htime
    injection htime with htime
    exact ⟨hsame.symm, htime.symm⟩

/-- A key with a quotation mark and a backslash, a text with a line break, a character that is not
printed and one beyond the first plane, and values within values. A text that looks like two
entries does not pass for them. -/
theorem lossless_line_nested :
    let entries : List (Text × Json) := [("a\"\\", .str "x\n\x7f😀"), ("n", .int (-12)),
      ("list", .arr [.null, .bool true, .obj [("é", .arr [])]])]
    let forged : List (Text × Json) := [("a", .str "1\", \"b\": \"2")]
    let pair : List (Text × Json) := [("a", .str "1"), ("b", .str "2")]
    let now : Instant := ⟨1500⟩
    (fields entries).jsonLine now.render =
        ("\x7b\"time\": \"1970-01-01T00:00:00.001Z\", " ++
          "\"a\\\"\\\\\": \"x\\n\\u007f\\ud83d\\ude00\", \"n\": -12, " ++
          "\"list\": [null, true, \x7b\"\\u00e9\": []\x7d]\x7d" : Text) ∧
      Json.parse ((fields entries).jsonLine now.render) =
        .ok (.obj (("time", .str "1970-01-01T00:00:00.001Z") :: entries)) ∧
      (fields forged).jsonLine now.render ≠ (fields pair).jsonLine now.render := by
  intro entries forged pair now
  have hlist : (Json.arr [.null, .bool true, .obj [("é", .arr [])]]).Regular Json.Exact := by
    refine .arr (List.forall_mem_cons.mpr ⟨.leaf (by decide), List.forall_mem_cons.mpr
      ⟨.leaf (by decide), List.forall_mem_singleton.mpr (.obj (by decide) (by decide) ?_)⟩⟩)
    exact List.forall_mem_singleton.mpr (.arr (List.forall_mem_nil _))
  have hentries : Lossless entries :=
    ⟨.obj (by decide) (by decide) (List.forall_mem_cons.mpr ⟨.leaf (by decide),
      List.forall_mem_cons.mpr ⟨.leaf (by decide), List.forall_mem_singleton.mpr hlist⟩⟩),
      by decide⟩
  have hforged : Lossless forged :=
    ⟨.obj (by decide) (by decide) (List.forall_mem_singleton.mpr (.leaf (by decide))), by decide⟩
  have hpair : Lossless pair :=
    ⟨.obj (by decide) (by decide) (List.forall_mem_cons.mpr ⟨.leaf (by decide),
      List.forall_mem_singleton.mpr (.leaf (by decide))⟩), by decide⟩
  have htime : now.render = "1970-01-01T00:00:00.001Z" := by cbv
  obtain ⟨-, hread, -⟩ := lossless_line hentries now
  obtain ⟨-, -, hunique⟩ := lossless_line hpair now
  refine ⟨by cbv, htime ▸ hread, fun hsame => ?_⟩
  obtain ⟨hequal, -⟩ := hunique forged now hforged hsame
  exact absurd (congrArg List.length hequal) (by decide)

end LogMessage

end StepUp
