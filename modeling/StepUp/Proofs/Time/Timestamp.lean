import StepUp.Log.Message
import StepUp.Proofs.Text.Decimal
import StepUp.Proofs.Time.Clock

/-!
# Timestamps

A timestamp is a date and a time of day down to the millisecond. `Timestamp.read?` reads it from a
text of the form `YYYY-MM-DDTHH:MM:SS.mmmZ` and from no other, and `Timestamp.millis` counts the
milliseconds from the epoch to it. An instant is written as the timestamp that it falls into
(`Instant.render_eq`), which is read back (`Timestamp.read?_text`); and the texts of timestamps are
in the order of time (`Timestamp.text_le`).
-/

namespace StepUp

structure Timestamp where
  date : Date
  hour : Nat
  minute : Nat
  second : Nat
  milli : Nat
deriving DecidableEq

namespace Timestamp

/-- The date is in the calendar, in a year of four digits, and the time is a time of day. -/
structure Valid (x : Timestamp) : Prop where
  date : x.date.Valid
  year_ge : 1970 ≤ x.date.year
  year_le : x.date.year ≤ 9999
  hour : x.hour < 24
  minute : x.minute < 60
  second : x.second < 60
  milli : x.milli < 1000

/-- The milliseconds of the day that have gone by. -/
def timeOfDay (x : Timestamp) : Nat :=
  ((x.hour * 60 + x.minute) * 60 + x.second) * 1000 + x.milli

/-- The milliseconds since the epoch. -/
def millis (x : Timestamp) : Nat := x.date.number * 86400000 + x.timeOfDay

theorem Valid.timeOfDay_lt {x : Timestamp} (h : x.Valid) : x.timeOfDay < 86400000 := by
  have hhour := h.hour
  have hminute := h.minute
  have hsecond := h.second
  have hmilli := h.milli
  unfold timeOfDay
  omega

/-! ## Numbers and marks -/

/-- Numbers of fixed width, each with the mark behind it. -/
abbrev Layout := List (Nat × Char)

/-- `YYYY-MM-DDTHH:MM:SS.mmmZ` -/
def layout : Layout := [(4, '-'), (2, '-'), (2, 'T'), (2, ':'), (2, ':'), (2, '.'), (3, 'Z')]

/-- The number that the first characters denote, all of them digits, and what follows. -/
def number? (width : Nat) (t : Text) : Option (Nat × Text) :=
  if (t.take width).length = width && (t.take width).all CodePoint.isAsciiDigit then
    some (Text.toNat (t.take width), t.drop width)
  else none

/-- What follows a mark. -/
def mark? (c : Char) : Text → Option Text
  | [] => none
  | d :: rest => if d = CodePoint.ofChar c then some rest else none

/-- The numbers in a text of some layout. -/
def numbers? : Layout → Text → Option (List Nat)
  | [], t => if t = [] then some [] else none
  | (w, c) :: rest, t =>
    (number? w t).bind fun (n, t) => (mark? c t).bind fun t => (numbers? rest t).map (n :: ·)

/-- The text of some numbers in a layout. -/
def written : Layout → List Nat → Text
  | (w, c) :: rest, n :: ns =>
    Text.padZero w (Text.ofNat n) ++ CodePoint.ofChar c :: written rest ns
  | _, _ => []

/-- Each number has its place in the layout, and is not too large for it. -/
inductive Fits : Layout → List Nat → Prop
  | nil : Fits [] []
  | cons {w n : Nat} {c : Char} {l : Layout} {ns : List Nat} (hw : 0 < w) (hn : n < 10 ^ w)
      (h : Fits l ns) : Fits ((w, c) :: l) (n :: ns)

theorem number?_padZero {w n : Nat} (hw : 0 < w) (h : n < 10 ^ w) (t : Text) :
    number? w (Text.padZero w (Text.ofNat n) ++ t) = some (n, t) := by
  have hlength := Text.length_padZero_ofNat hw h
  have hdigits : (Text.padZero w (Text.ofNat n)).all CodePoint.isAsciiDigit = true :=
    List.all_eq_true.mpr fun c hc => Text.isAsciiDigit_of_mem_padZero hc
  rw [number?, List.take_left' hlength, List.drop_left' hlength, hlength, hdigits,
    Text.toNat_padZero]
  exact if_pos (by simp)

theorem mark?_cons (c : Char) (t : Text) : mark? c (CodePoint.ofChar c :: t) = some t := if_pos rfl

/-- Numbers are read back. -/
theorem numbers?_written {l : Layout} {ns : List Nat} (h : Fits l ns) :
    numbers? l (written l ns) = some ns := by
  induction h with
  | nil => rfl
  | cons hw hn _ ih =>
    rw [written, numbers?, number?_padZero hw hn, Option.bind_some]
    dsimp only
    rw [mark?_cons, Option.bind_some, ih, Option.map_some]

/-- The first of the numbers that differ, if any do, is smaller. -/
def Precede : List Nat → List Nat → Prop
  | m :: ms, n :: ns => m < n ∨ m = n ∧ Precede ms ns
  | _, _ => True

/-- The texts of numbers are in their order. -/
theorem written_le {l : Layout} {ms ns : List Nat} (hm : Fits l ms) (hn : Fits l ns)
    (h : Precede ms ns) : Text.le (written l ms) (written l ns) = true := by
  induction hm generalizing ns with
  | nil => rfl
  | @cons w m c l ms hw hm _ ih =>
    cases hn with
    | cons _ hn hns =>
      rw [written, written]
      refine Text.le_padZero hw hm hn (h.imp_right fun ⟨heq, hrest⟩ => ⟨heq, ?_⟩)
      exact (Text.le_append_left [CodePoint.ofChar c] _ _).trans (ih hns hrest)

/-! ## Timestamps in texts -/

variable {x y : Timestamp}

def fields (x : Timestamp) : List Nat :=
  [x.date.year.toNat, x.date.month, x.date.day, x.hour, x.minute, x.second, x.milli]

/-- The timestamp that a text of the form `YYYY-MM-DDTHH:MM:SS.mmmZ` denotes. -/
def read? (t : Text) : Option Timestamp :=
  match numbers? layout t with
  | some [year, month, day, hour, minute, second, milli] =>
    some ⟨⟨year, month, day⟩, hour, minute, second, milli⟩
  | _ => none

def text (x : Timestamp) : Text := written layout x.fields

theorem Valid.fits (h : x.Valid) : Fits layout x.fields := by
  obtain ⟨hdate, -, hyear, hhour, hminute, hsecond, hmilli⟩ := h
  have hmonth := hdate.month_le
  have hday := hdate.day_le.trans (Date.monthLength_le _ _)
  exact .cons (by decide) (by omega) <| .cons (by decide) (by omega) <|
    .cons (by decide) (by omega) <| .cons (by decide) (by omega) <|
    .cons (by decide) (by omega) <| .cons (by decide) (by omega) <|
    .cons (by decide) (by omega) .nil

/-- A timestamp is read back from its text. -/
theorem read?_text (h : x.Valid) : read? x.text = some x := by
  have hyear : (x.date.year.toNat : Int) = x.date.year :=
    Int.toNat_of_nonneg (Int.le_trans (by decide) h.year_ge)
  rw [read?, text, numbers?_written h.fits]
  simp only [fields, hyear]

/-- What is not later in milliseconds is not later field by field. -/
theorem fields_precede (hx : x.Valid) (hy : y.Valid) (h : x.millis ≤ y.millis) :
    Precede x.fields y.fields := by
  have htime := hx.timeOfDay_lt
  have htime' := hy.timeOfDay_lt
  have hyear := hx.year_ge
  have hyear' := hy.year_ge
  unfold millis at h
  simp only [fields, Precede, and_true]
  rcases Date.before_trichotomy x.date y.date with hdate | hdate | hdate
  · unfold Date.Before at hdate
    omega
  · rw [hdate] at h ⊢
    have hlate : x.timeOfDay ≤ y.timeOfDay := by omega
    obtain ⟨-, -, -, hhour, hminute, hsecond, hmilli⟩ := hx
    obtain ⟨-, -, -, hhour', hminute', hsecond', hmilli'⟩ := hy
    unfold timeOfDay at hlate
    omega
  · have hless := Date.number_lt hy.date hy.year_ge hdate
    omega

theorem text_le (hx : x.Valid) (hy : y.Valid) (h : x.millis ≤ y.millis) :
    Text.le x.text y.text = true := written_le hx.fits hy.fits (fields_precede hx hy h)

end Timestamp

namespace Instant

/-! ## The timestamp of an instant -/

/-- The date and the time of day of an instant, down to the millisecond that has begun. -/
def timestamp (t : Instant) : Timestamp :=
  let second := (t.seconds % 86400).toNat
  ⟨t.date, second / 3600, second / 60 % 60, second % 60, (t.micros % 1000000).toNat / 1000⟩

theorem render_eq {t : Instant} (h : 0 ≤ t.date.year) : t.render = t.timestamp.text := by
  obtain ⟨year, hyear⟩ := Int.eq_ofNat_of_zero_le h
  have hnumber : Text.ofInt (year : Int) = Text.ofNat year := rfl
  have hdash : ("-" : Text) = [CodePoint.ofChar '-'] := rfl
  have hday : ("T" : Text) = [CodePoint.ofChar 'T'] := rfl
  have hcolon : (":" : Text) = [CodePoint.ofChar ':'] := rfl
  have hpoint : ("." : Text) = [CodePoint.ofChar '.'] := rfl
  have hzone : ("Z" : Text) = [CodePoint.ofChar 'Z'] := rfl
  simp only [render, hyear, hnumber, hdash, hday, hcolon, hpoint, hzone, Timestamp.text,
    Timestamp.layout, Timestamp.fields, timestamp, Timestamp.written, List.append_assoc,
    List.cons_append, List.nil_append, Int.toNat_natCast]

variable {u : Nat}

theorem valid_timestamp (h : u < 2 ^ 32 * 1000000) : (Instant.mk u).timestamp.Valid := by
  obtain ⟨hlow, hhigh⟩ := year_bounds h
  have hsecond : ((Instant.mk u).seconds % 86400).toNat < 86400 := by omega
  have hmicro : ((u : Int) % 1000000).toNat < 1000000 := by omega
  exact ⟨Date.valid_ofDays _, hlow, hhigh.trans (by decide), Nat.div_lt_of_lt_mul hsecond,
    Nat.mod_lt _ (by decide), Nat.mod_lt _ (by decide), Nat.div_lt_of_lt_mul hmicro⟩

theorem millis_timestamp (u : Nat) : (Instant.mk u).timestamp.millis = u / 1000 := by
  have hsecond : ((Instant.mk u).seconds % 86400).toNat = u / 1000000 % 86400 := rfl
  have hmicro : ((u : Int) % 1000000).toNat = u % 1000000 := rfl
  have hnumber : (Instant.mk u).date.number = u / 1000000 / 86400 := Date.number_ofDays _
  simp only [Timestamp.millis, Timestamp.timeOfDay, timestamp, hsecond, hmicro, hnumber]
  omega

end Instant

end StepUp
