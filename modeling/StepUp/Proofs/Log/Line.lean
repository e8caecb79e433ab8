import StepUp.Audit.Event
import StepUp.Log.Message
import StepUp.Proofs.Json.Reading
import StepUp.Proofs.Text.Utf8
import StepUp.Proofs.Validation.Checked

/-!
# Lines of the audit log

An audit event is written as one object on one line, with the time in front of its fields. Whatever
is in the texts of the event, its line has only characters from space to tilde
(`AuditEvent.plain_line`), so line breaks separate the lines of a file and nothing else does
(`AuditEvent.splitOn_lines`). An event that was read and accepted, without surrogates in its texts,
is read back from its line (`AuditEvent.readLine_line`), and the object that is read is accepted as
that event (`AuditEvent.check_shown`).
-/

namespace StepUp

theorem Text.plain_append {s t : Text} (hs : ∀ c ∈ s, c.Plain) (ht : ∀ c ∈ t, c.Plain) :
    ∀ c ∈ s ++ t, c.Plain := List.forall_mem_append.mpr ⟨hs, ht⟩

theorem Text.plain_replicate {c : CodePoint} (h : c.Plain) (n : Nat) :
    ∀ d ∈ List.replicate n c, d.Plain := by
  intro d hd
  rwa [List.eq_of_mem_replicate hd]

theorem Text.plain_padZero {t : Text} (h : ∀ c ∈ t, c.Plain) (width : Nat) :
    ∀ c ∈ padZero width t, c.Plain := Text.plain_append (Text.plain_replicate (by decide) _) h

/-- A number is written with digits, signs, a point and the letter of the exponent, or as a word. -/
theorem Binary64.plain_render (x : Binary64) : ∀ c ∈ x.render, c.Plain := by
  have hdigits (n : Nat) := Text.plain_ofNat n
  have hzeros (n : Nat) := Text.plain_replicate (c := CodePoint.ofChar '0') (by decide) n
  unfold render
  split
  · decide
  · split <;> decide
  · next negative mantissa exponent =>
    have hsign : ∀ c ∈ (if negative then "-" else [] : Text), c.Plain := by
      split <;> decide
    dsimp only
    split
    · exact Text.plain_append hsign (by decide)
    · refine Text.plain_append hsign ?_
      obtain ⟨n, k⟩ := shortest mantissa exponent
      dsimp only
      have htake (i : Nat) : ∀ c ∈ (Text.ofNat n).take i, c.Plain :=
        fun c hc => hdigits n c (List.mem_of_mem_take hc)
      have hdrop (i : Nat) : ∀ c ∈ (Text.ofNat n).drop i, c.Plain :=
        fun c hc => hdigits n c (List.mem_of_mem_drop hc)
      split
      · split
        · exact Text.plain_append (Text.plain_append (by decide) (hzeros _)) (hdigits n)
        · split
          · exact Text.plain_append (Text.plain_append (hdigits n) (hzeros _)) (by decide)
          · exact Text.plain_append (Text.plain_append (htake _) (by decide)) (hdrop _)
      · refine Text.plain_append (Text.plain_append (Text.plain_append (htake 1) ?_) ?_)
          (Text.plain_padZero (hdigits _) 2)
        · split
          · exact Text.plain_append (by decide) (hdrop 1)
          · exact List.forall_mem_nil _
        · split <;> decide

theorem Instant.plain_render (t : Instant) : ∀ c ∈ t.render, c.Plain := by
  have hyear := Text.plain_padZero (Text.plain_ofInt t.date.year) 4
  have hpart : ∀ width n, ∀ c ∈ Text.padZero width (Text.ofNat n), c.Plain :=
    fun width n => Text.plain_padZero (Text.plain_ofNat n) width
  have hmarks : ∀ c ∈ ("-" ++ ":" ++ "." ++ "T" ++ "Z" : Text), c.Plain := by decide
  simp only [List.forall_mem_append] at hmarks
  obtain ⟨⟨⟨⟨hdash, hcolon⟩, hpoint⟩, hday⟩, hzone⟩ := hmarks
  unfold render
  simp only [List.forall_mem_append]
  exact ⟨⟨⟨⟨⟨⟨⟨⟨⟨⟨⟨⟨⟨hyear, hdash⟩, hpart _ _⟩, hdash⟩, hpart _ _⟩, hday⟩, hpart _ _⟩, hcolon⟩,
    hpart _ _⟩, hcolon⟩, hpart _ _⟩, hpoint⟩, hpart _ _⟩, hzone⟩

theorem Text.unicode_of_plain {t : Text} (h : ∀ c ∈ t, c.Plain) : t.Unicode := by
  intro c hc
  obtain ⟨-, hhigh⟩ := h c hc
  simp only [CodePoint.isSurrogate, Bool.and_eq_false_iff, decide_eq_false_iff_not]
  omega

/-- The octets of plain characters are their numbers, none of which is that of a line break. -/
theorem Utf8.newline_not_mem_encode {t : Text} (h : ∀ c ∈ t, c.Plain) : 0x0A ∉ encode t := by
  intro hmem
  obtain ⟨c, hc, hoctet⟩ := List.mem_flatMap.mp hmem
  obtain ⟨hlow, hhigh⟩ := h c hc
  rw [encodeCodePoint, if_pos (by omega : c.val < 0x80), List.mem_singleton] at hoctet
  have hval := congrArg UInt8.toNat hoctet
  rw [toNat_ofNat (by omega)] at hval
  have hten : (0x0A : UInt8).toNat = 10 := rfl
  omega

theorem Utf8.encode_append (s t : Text) : encode (s ++ t) = encode s ++ encode t :=
  List.flatMap_append

/-- Splitting the octets of some lines at line breaks gives the lines, one behind the other. -/
theorem Utf8.splitOn_lines {ts : List Text} (h : ∀ t ∈ ts, ∀ c ∈ t, c.Plain) :
    (ts.flatMap fun t => encode (t ++ "\n")).splitOn 0x0A = ts.map encode ++ [[]] := by
  induction ts with
  | nil => rfl
  | cons t rest ih =>
    obtain ⟨ht, hrest⟩ := List.forall_mem_cons.mp h
    have hline : ((t :: rest).flatMap fun t => encode (t ++ "\n")) =
        encode t ++ 0x0A :: rest.flatMap fun t => encode (t ++ "\n") := by
      rw [List.flatMap_cons, encode_append, List.append_assoc]
      rfl
    rw [hline, List.splitOn, List.splitOnP_append_cons_of_forall_mem, ← List.splitOn, ih hrest]
    · rfl
    · intro octet hoctet
      exact beq_false_of_ne (ne_of_mem_of_not_mem hoctet (newline_not_mem_encode ht))
    · exact beq_self_eq_true _

namespace Json

theorem plain_renderFloat (x : Binary64) : ∀ c ∈ renderFloat x, c.Plain := by
  unfold renderFloat
  split
  · decide
  · split <;> decide
  · exact x.plain_render

mutual

/-- Whatever a value holds, only characters from space to tilde are written for it. -/
theorem plain_render : ∀ v : Json, ∀ c ∈ render v, c.Plain
  | .null => by decide
  | .bool true => by decide
  | .bool false => by decide
  | .int n => Text.plain_ofInt n
  | .float x => plain_renderFloat x
  | .str t => plain_renderText t
  | .arr items => by
    rw [render]
    exact Text.plain_append (Text.plain_append (by decide) (plain_renderItems items)) (by decide)
  | .obj entries => by
    rw [render]
    exact Text.plain_append (Text.plain_append (by decide) (plain_renderEntries entries))
      (by decide)

theorem plain_renderItems : ∀ items : List Json, ∀ c ∈ renderItems items, c.Plain
  | [] => List.forall_mem_nil _
  | [v] => plain_render v
  | v :: w :: rest => by
    rw [renderItems]
    · exact Text.plain_append (Text.plain_append (plain_render v) (by decide))
        (plain_renderItems (w :: rest))
    · exact List.cons_ne_nil w rest

theorem plain_renderEntries : ∀ entries : List (Text × Json), ∀ c ∈ renderEntries entries, c.Plain
  | [] => List.forall_mem_nil _
  | [(k, v)] =>
    Text.plain_append (Text.plain_append (plain_renderText k) (by decide)) (plain_render v)
  | (k, v) :: q :: rest => by
    rw [renderEntries]
    · exact Text.plain_append (Text.plain_append (Text.plain_append
        (Text.plain_append (plain_renderText k) (by decide)) (plain_render v)) (by decide))
        (plain_renderEntries (q :: rest))
    · exact List.cons_ne_nil q rest

end

/-- Under distinct keys a filter decides on the value under a key alone. -/
theorem lookup_filter {entries : List (Text × Json)} (hdistinct : (entries.map Prod.fst).Nodup)
    (keep : Text × Json → Bool) {k : Text} {v : Json} (h : entries.lookup k = some v) :
    (entries.filter keep).lookup k = if keep (k, v) then some v else none := by
  obtain ⟨before, after, rfl, hbefore⟩ := List.lookup_eq_some_iff.mp h
  rw [List.map_append, List.map_cons, List.nodup_append, List.nodup_cons] at hdistinct
  have hnone : ∀ rest : List (Text × Json), k ∉ rest.map Prod.fst →
      (rest.filter keep).lookup k = none := by
    intro rest hk
    refine List.lookup_eq_none_iff.mpr fun q hq => bne_iff_ne.mpr ?_
    rintro rfl
    exact hk (List.mem_map_of_mem (List.mem_filter.mp hq).1)
  have hfront : k ∉ before.map Prod.fst := fun hk =>
    hdistinct.2.2 k hk k List.mem_cons_self rfl
  rw [List.filter_append, List.lookup_append, hnone before hfront, Option.none_or]
  cases hkeep : keep (k, v) with
  | true => simp [hkeep]
  | false => simp [hkeep, hnone after hdistinct.2.1.1]

theorem ensures_checkNullableInteger :
    Ensures checkNullableInteger fun rank => ∀ n ∈ rank, IntInLimit n := by
  intro v rank hv h n hn
  unfold checkNullableInteger at h
  split at h
  · cases h
    cases hn
  · obtain ⟨m, hm, rfl⟩ := Checked.map_eq_ok_iff.mp h
    cases hn
    exact intInLimit_of_checkInteger hv hm

end Json

/-- No character of a line of a log file breaks the line, whatever the message. -/
theorem LogMessage.plain_jsonLine (time : Text) (m : LogMessage) : ∀ c ∈ m.jsonLine time, c.Plain :=
  Json.plain_render _

namespace AuditEvent

variable {e : AuditEvent} {now : Instant}

/-- The fields of an event, null or not. -/
def entries (e : AuditEvent) : List (Text × Json) :=
  [("event", .str eventName), ("outcome", .str e.outcome.text), ("request_id", .str e.requestId),
    ("service_id", Json.ofOption e.serviceId), ("principal_id", Json.ofOption e.principalId),
    ("method", Json.ofOption e.method), ("rank", (e.rank.map Json.int).getD .null),
    ("source", Json.ofOption e.source), ("error", Json.ofOption e.error)]

theorem fields_eq (e : AuditEvent) : e.fields = e.entries.filter fun q => !q.2.isNull := rfl

/-- The line of an event. -/
def line (now : Instant) (e : AuditEvent) : Text := (LogMessage.fields e.fields).jsonLine now.render

/-- What the line of an event shows: the time and the fields that are not null. -/
def shown (now : Instant) (e : AuditEvent) : List (Text × Json) :=
  ("time", .str now.render) :: e.fields

def keys : List Text :=
  ["event", "outcome", "request_id", "service_id", "principal_id", "method", "rank", "source",
    "error"]

/-- The texts of an event. -/
def texts (e : AuditEvent) : List Text :=
  [eventName, e.outcome.text, e.requestId] ++
    [e.serviceId, e.principalId, e.method, e.source, e.error].filterMap id

/-- No text of an event has a surrogate. -/
def Unicode (e : AuditEvent) : Prop := ∀ t ∈ e.texts, Text.Unicode t

/-- An event that was read and accepted. -/
def Accepted (e : AuditEvent) : Prop :=
  ∃ source v, Json.parse source = .ok v ∧ check v = .ok e

theorem keys_entries (e : AuditEvent) : e.entries.map Prod.fst = keys := rfl

theorem nodup_entries (e : AuditEvent) : (e.entries.map Prod.fst).Nodup := by
  rw [keys_entries]
  decide

theorem keys_shown (now : Instant) (e : AuditEvent) :
    ((e.shown now).map Prod.fst).Sublist ("time" :: keys) := by
  have hfields : (e.fields.map Prod.fst).Sublist keys := by
    rw [fields_eq, ← keys_entries e]
    exact List.filter_sublist.map Prod.fst
  exact hfields.cons_cons _

theorem nodup_shown (now : Instant) (e : AuditEvent) : ((e.shown now).map Prod.fst).Nodup := by
  have hall : (("time" : Text) :: keys).Nodup := by decide
  exact hall.sublist (keys_shown now e)

theorem line_eq (now : Instant) (e : AuditEvent) : e.line now = (Json.obj (e.shown now)).render :=
  congrArg Json.render (Json.ofEntries_of_nodup (nodup_shown now e))

theorem value_of_mem_entries {q : Text × Json} (h : q ∈ e.entries) :
    q.2 = .null ∨ (∃ t ∈ e.texts, q.2 = .str t) ∨ ∃ n ∈ e.rank, q.2 = .int n := by
  have hoption : ∀ x ∈ [e.serviceId, e.principalId, e.method, e.source, e.error],
      Json.ofOption x = .null ∨ (∃ t ∈ e.texts, Json.ofOption x = .str t) ∨
        ∃ n ∈ e.rank, Json.ofOption x = .int n := by
    intro x hx
    cases x with
    | none => exact Or.inl rfl
    | some t =>
      have ht : t ∈ e.texts :=
        List.mem_append_right _ (List.mem_filterMap.mpr ⟨some t, hx, rfl⟩)
      exact Or.inr (Or.inl ⟨t, ht, rfl⟩)
  simp only [entries, List.mem_cons, List.not_mem_nil, or_false] at h
  rcases h with rfl | rfl | rfl | rfl | rfl | rfl | rfl | rfl | rfl
  · exact Or.inr (Or.inl ⟨eventName, by simp [texts], rfl⟩)
  · exact Or.inr (Or.inl ⟨e.outcome.text, by simp [texts], rfl⟩)
  · exact Or.inr (Or.inl ⟨e.requestId, by simp [texts], rfl⟩)
  · exact hoption e.serviceId (by simp)
  · exact hoption e.principalId (by simp)
  · exact hoption e.method (by simp)
  · cases hrank : e.rank with
    | none => exact Or.inl rfl
    | some n => exact Or.inr (Or.inr ⟨n, rfl, rfl⟩)
  · exact hoption e.source (by simp)
  · exact hoption e.error (by simp)

theorem value_of_mem_fields {q : Text × Json} (h : q ∈ e.fields) :
    (∃ t ∈ e.texts, q.2 = .str t) ∨ ∃ n ∈ e.rank, q.2 = .int n := by
  obtain ⟨hentry, hnull⟩ := List.mem_filter.mp (e.fields_eq ▸ h)
  rcases value_of_mem_entries hentry with hq | hq
  · rw [hq] at hnull
    cases hnull
  · exact hq

/-! ## One line -/

/-- Whatever an event tells, no character of its line breaks the line. -/
theorem plain_line (now : Instant) (e : AuditEvent) : ∀ c ∈ e.line now, c.Plain :=
  LogMessage.plain_jsonLine _ _

theorem newline_not_mem_line (now : Instant) (e : AuditEvent) :
    0x0A ∉ Utf8.encode (e.line now) := Utf8.newline_not_mem_encode (plain_line now e)

/-- The octets of some events, a line for each. -/
def lines (es : List (Instant × AuditEvent)) : List UInt8 :=
  es.flatMap fun q => Utf8.encode (q.2.line q.1 ++ "\n")

/-- Splitting the octets at line breaks gives the lines of the events, one behind the other. -/
theorem splitOn_lines (es : List (Instant × AuditEvent)) :
    (lines es).splitOn 0x0A = (es.map fun q => Utf8.encode (q.2.line q.1)) ++ [[]] := by
  have hplain : ∀ t ∈ es.map fun q => q.2.line q.1, ∀ c ∈ t, c.Plain :=
    List.forall_mem_map.mpr fun q _ => plain_line q.1 q.2
  have hsplit := Utf8.splitOn_lines hplain
  rwa [List.flatMap_map, List.map_map] at hsplit

/-! ## Reading a line -/

/-- The value that the octets of a line are read as. -/
def readLine (octets : List UInt8) : Option Json :=
  match Utf8.decode octets with
  | .ok t => (Json.parse t).toOption
  | .error _ => none

/-- The rank of an event that was read is within the limit of digits. -/
theorem Accepted.intInLimit_rank (h : e.Accepted) : ∀ n ∈ e.rank, Json.IntInLimit n := by
  obtain ⟨source, v, hparsed, hvalid⟩ := h
  obtain ⟨fields, rfl, hfields⟩ := Json.checkModel_eq_ok hvalid
  have hregular := Json.regular_of_parse hparsed
  unfold checkFields at hfields
  obtain ⟨_, _, herror, -, rfl⟩ := Checked.ap_eq_ok_iff.mp hfields
  obtain ⟨_, _, hsource, -, rfl⟩ := Checked.ap_eq_ok_iff.mp herror
  obtain ⟨_, rank, hmethod, hrank, rfl⟩ := Checked.ap_eq_ok_iff.mp hsource
  obtain ⟨_, _, hprincipal, -, rfl⟩ := Checked.ap_eq_ok_iff.mp hmethod
  obtain ⟨_, _, hservice, -, rfl⟩ := Checked.ap_eq_ok_iff.mp hprincipal
  obtain ⟨_, _, hrequest, -, rfl⟩ := Checked.ap_eq_ok_iff.mp hservice
  obtain ⟨_, _, houtcome, -, rfl⟩ := Checked.ap_eq_ok_iff.mp hrequest
  obtain ⟨_, _, hevent, -, rfl⟩ := Checked.ap_eq_ok_iff.mp houtcome
  obtain ⟨_, -, rfl⟩ := Checked.map_eq_ok_iff.mp hevent
  exact Json.ensures_checkNullableInteger.optional
    (fun n hn => absurd hn (Option.not_mem_none n)) hregular hrank

theorem regular_shown (hlimit : ∀ n ∈ e.rank, Json.IntInLimit n) (hunicode : e.Unicode)
    (now : Instant) : (Json.obj (e.shown now)).Regular Json.Exact := by
  have hkeys : ∀ k ∈ ("time" : Text) :: keys, Text.Unicode k := by decide
  refine .obj (nodup_shown now e) (fun q hq => ?_) (fun q hq => ?_)
  · exact hkeys q.1 ((keys_shown now e).subset (List.mem_map_of_mem hq))
  · rcases List.mem_cons.mp hq with rfl | hq
    · exact .leaf (Text.unicode_of_plain now.plain_render)
    · rcases value_of_mem_fields hq with ⟨t, ht, hq⟩ | ⟨n, hn, hq⟩
      · rw [hq]
        exact .leaf (hunicode t ht)
      · rw [hq]
        exact .leaf (hlimit n hn)

/-- What is read from a line. -/
theorem readLine_line (haccepted : e.Accepted) (hunicode : e.Unicode) (now : Instant) :
    readLine (Utf8.encode (e.line now)) = some (.obj (e.shown now)) := by
  have hplain := Text.unicode_of_plain (plain_line now e)
  have hregular := regular_shown haccepted.intInLimit_rank hunicode now
  rw [readLine, Utf8.decode_encode hplain]
  dsimp only
  rw [line_eq, Json.parse_render hregular]
  rfl

theorem lookup_shown {k : Text} {v : Json} (hk : k ≠ "time") (h : e.entries.lookup k = some v) :
    (e.shown now).lookup k = if v.isNull then none else some v := by
  have htime : (k == "time") = false := beq_false_of_ne hk
  rw [shown, List.lookup_cons, htime, fields_eq,
    Json.lookup_filter (nodup_entries e) (fun q => !q.2.isNull) h]
  cases v.isNull <;> rfl

/-- The object of a line is accepted as the event that it was written for. -/
theorem check_shown (now : Instant) (e : AuditEvent) : check (.obj (e.shown now)) = .ok e := by
  have hgiven : ∀ {k : Text} {v : Json}, k ≠ "time" → e.entries.lookup k = some v →
      v.isNull = false → (e.shown now).lookup k = some v := by
    intro k v hk hv hnull
    rw [lookup_shown hk hv, if_neg (Bool.eq_false_iff.mp hnull)]
  have htext : ∀ {k : Text} {x : Option Text}, k ≠ "time" →
      e.entries.lookup k = some (Json.ofOption x) →
      Json.optional (e.shown now) k none Json.checkNullableText = .ok x := by
    intro k x hk hx
    cases x with
    | none =>
      rw [Json.optional, lookup_shown hk hx]
      rfl
    | some t => exact Json.optional_of_lookup (hgiven hk hx rfl) rfl
  have hevent : Json.optional (e.shown now) "event" () (Json.checkChoice [(eventName, ())]) =
      .ok () := Json.optional_of_lookup (hgiven (by decide) rfl rfl) rfl
  have houtcome : Json.required (e.shown now) "outcome"
      (Json.checkChoice (Outcome.all.map fun o => (o.text, o))) = .ok e.outcome := by
    refine Json.required_of_lookup (hgiven (by decide) rfl rfl) ?_
    cases e.outcome <;> rfl
  have hrequest : Json.required (e.shown now) "request_id" Json.checkText = .ok e.requestId :=
    Json.required_of_lookup (hgiven (by decide) rfl rfl) rfl
  have hrank : Json.optional (e.shown now) "rank" none Json.checkNullableInteger = .ok e.rank := by
    have hlookup : e.entries.lookup ("rank" : Text) =
        some ((e.rank.map Json.int).getD Json.null) := rfl
    cases hvalue : e.rank with
    | none =>
      rw [hvalue] at hlookup
      rw [Json.optional, lookup_shown (by decide) hlookup]
      rfl
    | some n =>
      rw [hvalue] at hlookup
      exact Json.optional_of_lookup (hgiven (by decide) hlookup rfl) rfl
  have hservice := htext (k := "service_id") (x := e.serviceId) (by decide) rfl
  have hprincipal := htext (k := "principal_id") (x := e.principalId) (by decide) rfl
  have hmethod := htext (k := "method") (x := e.method) (by decide) rfl
  have hsource := htext (k := "source") (x := e.source) (by decide) rfl
  have herror := htext (k := "error") (x := e.error) (by decide) rfl
  show checkFields (e.shown now) = .ok e
  simp only [checkFields, hevent, houtcome, hrequest, hrank, hservice, hprincipal, hmethod,
    hsource, herror]
  rfl

end AuditEvent

end StepUp
