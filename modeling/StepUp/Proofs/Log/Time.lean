import StepUp.Proofs.Time.Timestamp

/-!
# The time of a line

A line of a log file begins with the time. It should say when its record was made, and lines that
are sorted by it should be in the order of time. Both hold as long as the clock, which counts in
binary floating point numbers, still tells microseconds apart (`log_time_exact`).
-/

namespace StepUp

/-- Entries under other keys are put behind the first one. -/
theorem Json.foldl_putEntry_cons {key : Text} {value : Json} {pairs : List (Text × Json)}
    (h : key ∉ pairs.map Prod.fst) (entries : List (Text × Json)) :
    pairs.foldl (fun entries p => putEntry entries p.1 p.2) ((key, value) :: entries) =
      (key, value) :: pairs.foldl (fun entries p => putEntry entries p.1 p.2) entries := by
  induction pairs generalizing entries with
  | nil => rfl
  | cons p rest ih =>
    rw [List.map_cons, List.mem_cons, not_or] at h
    rw [List.foldl_cons, List.foldl_cons, ← ih h.2, putEntry, if_neg h.1]

/-- A message with no time of its own is written behind the time. -/
theorem LogMessage.toJson_of_untimed {m : LogMessage} (h : ("time" : Text) ∉ m.entries.map Prod.fst)
    (time : Text) : ∃ entries, m.toJson time = .obj (("time", .str time) :: entries) :=
  ⟨_, congrArg Json.obj (Json.foldl_putEntry_cons h [])⟩

namespace Instant

theorem render_le {u v : Nat} (hu : u < 2 ^ 32 * 1000000) (hv : v < 2 ^ 32 * 1000000)
    (h : u ≤ v) : Text.le (Instant.mk u).render (Instant.mk v).render = true := by
  obtain ⟨hyear, -⟩ := year_bounds hu
  obtain ⟨hyear', -⟩ := year_bounds hv
  rw [render_eq (by omega), render_eq (by omega)]
  refine Timestamp.text_le (valid_timestamp hu) (valid_timestamp hv) ?_
  rw [millis_timestamp, millis_timestamp]
  exact Nat.div_le_div_right h

end Instant

/-- **The time of a line.** Whatever number of microseconds after the epoch the clock means, below
`2 ^ 32` seconds, the line of a record can be written. Its object begins with the time, unless the
message has a time of its own. That time is of the form `YYYY-MM-DDTHH:MM:SS.mmmZ`, and names a date
of the Gregorian calendar and a time of day. Read back, these are the whole milliseconds after the
epoch, what is left of a millisecond cut off. The time of a later record does not come before it in
the order of texts. -/
theorem log_time_exact {u : Nat} (h : u < 2 ^ 32 * 1000000) :
    ∃ t, Instant.ofClock? u = .ok t ∧
      (∀ m : LogMessage, ("time" : Text) ∉ m.entries.map Prod.fst →
        ∃ entries, m.toJson t.render = .obj (("time", .str t.render) :: entries)) ∧
      (∃ x : Timestamp, x.Valid ∧ t.render = x.text ∧ Timestamp.read? t.render = some x ∧
        x.millis = u / 1000) ∧
      ∀ v : Nat, u ≤ v → v < 2 ^ 32 * 1000000 →
        ∃ t', Instant.ofClock? v = .ok t' ∧ Text.le t.render t'.render = true := by
  obtain ⟨hyear, -⟩ := Instant.year_bounds h
  have hvalid := Instant.valid_timestamp h
  have hrender : (Instant.mk u).render = (Instant.mk u).timestamp.text :=
    Instant.render_eq (by omega)
  refine ⟨⟨u⟩, Instant.ofClock?_ok h, fun m hm => LogMessage.toJson_of_untimed hm _,
    ⟨_, hvalid, hrender, ?_, Instant.millis_timestamp u⟩, fun v hlater hv =>
    ⟨⟨v⟩, Instant.ofClock?_ok hv, Instant.render_le h hv hlater⟩⟩
  rw [hrender]
  exact Timestamp.read?_text hvalid

/-- The last microsecond of a leap day, of which the last three digits are cut off. -/
theorem log_time_exact_leap :
    951868799999999 < 2 ^ 32 * 1000000 ∧ ∃ t, Instant.ofClock? (951868799999999 : Nat) = .ok t ∧
      t.render = "2000-02-29T23:59:59.999Z" ∧
      ∃ x, Timestamp.read? "2000-02-29T23:59:59.999Z" = some x ∧ x.millis = 951868799999 := by
  have h : 951868799999999 < 2 ^ 32 * 1000000 := by decide
  obtain ⟨t, ht, -, ⟨x, -, -, hread, hmillis⟩, -⟩ := log_time_exact h
  cases ht.symm.trans (Instant.ofClock?_ok h)
  have hrender : (Instant.mk (951868799999999 : Nat)).render = "2000-02-29T23:59:59.999Z" := by
    decide +kernel
  rw [hrender] at hread
  exact ⟨h, _, ht, hrender, x, hread, hmillis⟩

end StepUp
