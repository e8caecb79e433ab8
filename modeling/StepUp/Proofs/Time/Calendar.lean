import Mathlib
import StepUp.Time.Calendar

/-!
# Dates of the Gregorian calendar

A date is valid when its month has that day, and its number counts the days from 1 January 1970 on:
those of whole years, of whole months and of the month that has begun. Nothing in `Date.number`
speaks of eras or of years that begin in March.

`Date.ofDays` looks for the year within an era of 400 years, which consist of centuries, cycles of
four years and single years (`Date.exists_parts`). It finds the year from March to February in which
the day lies, and the day's number in that year (`Date.ofDays_eq`). Hence it gives valid dates
(`Date.valid_ofDays`) that are numbered by their days (`Date.number_ofDays`), and valid dates are
ordered like their numbers (`Date.number_lt`).
-/

namespace StepUp

namespace Date

/-! ## Valid dates and their numbers -/

/-- Every fourth year, but of the hundredth years only every fourth. -/
def IsLeap (year : Int) : Prop := 4 ∣ year ∧ (100 ∣ year → 400 ∣ year)

instance (year : Int) : Decidable (IsLeap year) :=
  inferInstanceAs (Decidable (4 ∣ year ∧ (100 ∣ year → 400 ∣ year)))

def monthLength (year : Int) : Nat → Nat
  | 1 | 3 | 5 | 7 | 8 | 10 | 12 => 31
  | 4 | 6 | 9 | 11 => 30
  | 2 => if IsLeap year then 29 else 28
  | _ => 0

theorem monthLength_le (year : Int) (month : Nat) : monthLength year month ≤ 31 := by
  unfold monthLength
  split <;> (try split) <;> decide

/-- The month is one of twelve, and has that day. -/
structure Valid (d : Date) : Prop where
  month_pos : 1 ≤ d.month
  month_le : d.month ≤ 12
  day_pos : 1 ≤ d.day
  day_le : d.day ≤ monthLength d.year d.month

/-- The days of the year before a month. -/
def daysBeforeMonth (year : Int) (month : Nat) : Nat :=
  ∑ m ∈ Finset.range (month - 1), monthLength year (m + 1)

def yearLength (year : Int) : Nat := daysBeforeMonth year 13

/-- The days from 1970 on before a year. -/
def daysBeforeYear (year : Int) : Nat :=
  ∑ k ∈ Finset.range (year - 1970).toNat, yearLength (1970 + k)

/-- The days from 1 January 1970 to a date of that year or a later one. -/
def number (d : Date) : Nat :=
  daysBeforeYear d.year + daysBeforeMonth d.year d.month + (d.day - 1)

/-- The leap days of the years from 1 to a year. -/
def leapDays (year : Int) : Int := year / 4 - year / 100 + year / 400

theorem leapDays_succ (year : Int) :
    leapDays (year + 1) = leapDays year + if IsLeap (year + 1) then 1 else 0 := by
  by_cases h : IsLeap (year + 1)
  · rw [if_pos h]
    unfold leapDays
    unfold IsLeap at h
    omega
  · rw [if_neg h]
    unfold leapDays
    unfold IsLeap at h
    omega

theorem leapDays_era (era year : Int) :
    leapDays (era * 400 + year) = era * 97 + leapDays year := by
  have hfourth : (era * 400 + year) / 4 = era * 100 + year / 4 := by omega
  have hhundredth : (era * 400 + year) / 100 = era * 4 + year / 100 := by omega
  have hera : (era * 400 + year) / 400 = era + year / 400 := by omega
  rw [leapDays, leapDays, hfourth, hhundredth, hera]
  ring

theorem yearLength_eq (year : Int) : yearLength year = if IsLeap year then 366 else 365 := by
  simp only [yearLength, daysBeforeMonth, Finset.sum_range_succ, Finset.sum_range_zero, monthLength]
  split <;> rfl

theorem daysBeforeYear_succ {year : Int} (h : 1970 ≤ year) :
    daysBeforeYear (year + 1) = daysBeforeYear year + yearLength year := by
  have hnext : (year + 1 - 1970).toNat = (year - 1970).toNat + 1 := by omega
  have hyear : 1970 + ((year - 1970).toNat : Int) = year := by omega
  rw [daysBeforeYear, hnext, Finset.sum_range_succ, hyear, ← daysBeforeYear]

theorem daysBeforeYear_eq {year : Int} (h : 1970 ≤ year) :
    (daysBeforeYear year : Int) =
      365 * (year - 1970) + leapDays (year - 1) - leapDays 1969 := by
  induction year, h using Int.leInduction with
  | base => rfl
  | succ year h ih =>
    have hleap := leapDays_succ (year - 1)
    rw [sub_add_cancel] at hleap
    rw [daysBeforeYear_succ h, yearLength_eq, Nat.cast_add, ih, add_sub_cancel_right, hleap]
    split <;> push_cast <;> ring

/-- Every year takes 365 days or more. -/
theorem le_daysBeforeYear (year : Int) : 365 * (year - 1970).toNat ≤ daysBeforeYear year := by
  have hyear : ∀ k ∈ Finset.range (year - 1970).toNat, 365 ≤ yearLength (1970 + k) := by
    intro k _
    rw [yearLength_eq]
    split <;> decide
  have hsum := Finset.card_nsmul_le_sum _ _ _ hyear
  rw [Finset.card_range, smul_eq_mul, mul_comm] at hsum
  exact hsum

/-! ## The order of dates -/

theorem daysBeforeMonth_mono (year : Int) {m n : Nat} (h : m ≤ n) :
    daysBeforeMonth year m ≤ daysBeforeMonth year n :=
  Finset.sum_le_sum_of_subset (Finset.range_mono (Nat.sub_le_sub_right h 1))

theorem daysBeforeMonth_succ (year : Int) {m : Nat} (h : 1 ≤ m) :
    daysBeforeMonth year (m + 1) = daysBeforeMonth year m + monthLength year m := by
  obtain ⟨m, rfl⟩ := Nat.exists_eq_add_of_le' h
  exact Finset.sum_range_succ _ _

theorem daysBeforeYear_mono {y z : Int} (h : y ≤ z) : daysBeforeYear y ≤ daysBeforeYear z :=
  Finset.sum_le_sum_of_subset (Finset.range_mono (by omega))

namespace Valid

variable {d e : Date}

/-- The days of its month that have begun do not reach into the next month. -/
theorem dayOfYear_lt (h : d.Valid) :
    daysBeforeMonth d.year d.month + (d.day - 1) < daysBeforeMonth d.year (d.month + 1) := by
  have hnext := daysBeforeMonth_succ d.year h.month_pos
  have hpos := h.day_pos
  have hle := h.day_le
  omega

theorem number_lt_next (h : d.Valid) (hyear : 1970 ≤ d.year) :
    d.number < daysBeforeYear (d.year + 1) := by
  have hday := h.dayOfYear_lt
  have hmonth : daysBeforeMonth d.year (d.month + 1) ≤ yearLength d.year :=
    daysBeforeMonth_mono d.year (Nat.succ_le_succ h.month_le)
  rw [daysBeforeYear_succ hyear, number]
  omega

end Valid

/-- By year, then by month, then by day. -/
def Before (d e : Date) : Prop :=
  d.year < e.year ∨ d.year = e.year ∧ (d.month < e.month ∨ d.month = e.month ∧ d.day < e.day)

theorem before_trichotomy (d e : Date) : d.Before e ∨ d = e ∨ e.Before d := by
  obtain ⟨year, month, day⟩ := d
  obtain ⟨year', month', day'⟩ := e
  simp only [Before, mk.injEq]
  omega

theorem number_lt {d e : Date} (hd : d.Valid) (hyear : 1970 ≤ d.year)
    (h : d.Before e) : d.number < e.number := by
  rcases h with hlt | ⟨hsame, hlt | ⟨hmonth, hday⟩⟩
  · calc d.number < daysBeforeYear (d.year + 1) := hd.number_lt_next hyear
      _ ≤ daysBeforeYear e.year := daysBeforeYear_mono hlt
      _ ≤ e.number := by
        rw [number]
        omega
  · have hdays := hd.dayOfYear_lt
    have hmonths : daysBeforeMonth d.year (d.month + 1) ≤ daysBeforeMonth d.year e.month :=
      daysBeforeMonth_mono d.year hlt
    rw [number, number, ← hsame]
    omega
  · have hpos := hd.day_pos
    rw [number, number, ← hsame, ← hmonth]
    omega

/-! ## The year within an era -/

/-- A day of an era but the last one lies in a century, a cycle of four years, a year and on a day
of it. Only the fourth year of a cycle has a 366th day, and not the one that ends a century. -/
theorem exists_parts {n : Nat} (h : n < 146096) : ∃ c q w s, c ≤ 3 ∧ q ≤ 24 ∧ w ≤ 3 ∧
    (s < 365 ∨ s = 365 ∧ w = 3 ∧ q ≠ 24) ∧ n = 36524 * c + 1461 * q + 365 * w + s := by
  by_cases hlast : n % 36524 % 1461 = 1460
  · refine ⟨n / 36524, n % 36524 / 1461, 3, 365, ?_⟩
    omega
  · refine ⟨n / 36524, n % 36524 / 1461, n % 36524 % 1461 / 365, n % 36524 % 1461 % 365, ?_⟩
    omega

/-- The year of an era in which a day lies, counted from March like the day. -/
def yearOfEra (n : Nat) : Nat := (n - n / 1460 + n / 36524 - n / 146096) / 365

theorem yearOfEra_eq {c q w s : Nat} (hc : c ≤ 3) (hq : q ≤ 24) (hw : w ≤ 3)
    (hs : s < 365 ∨ s = 365 ∧ w = 3 ∧ q ≠ 24) :
    yearOfEra (36524 * c + 1461 * q + 365 * w + s) = 100 * c + 4 * q + w := by
  generalize hn : 36524 * c + 1461 * q + 365 * w + s = n
  have hcentury : n / 36524 = c := by omega
  have hera : n / 146096 = 0 := by omega
  have hcycle : n / 1460 = 25 * c + q + (24 * c + q + 365 * w + s) / 1460 := by omega
  have hrest : (24 * c + q + 365 * w + s) / 1460 ≤ 1 := by omega
  rw [yearOfEra, hcentury, hera, hcycle]
  omega

/-- The day lies in that year: from its beginning there are less than 365 days, or 365 if it ends
with a leap day. -/
theorem yearOfEra_spec {n : Nat} (h : n < 146097) :
    ∃ s, yearOfEra n < 400 ∧
      n = 365 * yearOfEra n + yearOfEra n / 4 - yearOfEra n / 100 + s ∧
      (s < 365 ∨ s = 365 ∧ IsLeap (yearOfEra n + 1 : Nat)) := by
  by_cases hlast : n = 146096
  · subst hlast
    exact ⟨365, by decide, by decide, Or.inr ⟨rfl, by decide⟩⟩
  · obtain ⟨c, q, w, s, hc, hq, hw, hs, rfl⟩ := exists_parts (n := n) (by omega)
    have hfourth : (100 * c + 4 * q + w) / 4 = 25 * c + q := by omega
    have hhundredth : (100 * c + 4 * q + w) / 100 = c := by omega
    rw [yearOfEra_eq hc hq hw hs, hfourth, hhundredth]
    refine ⟨s, by omega, by omega, hs.imp_right fun ⟨hs, hw, hq'⟩ => ⟨hs, ?_⟩⟩
    unfold IsLeap
    omega

/-! ## From days to dates -/

/-- The date of a day of a year that begins in March. -/
def ofMarch (year : Int) (day : Nat) : Date :=
  let month := (5 * day + 2) / 153
  let january := if month < 10 then month + 3 else month - 9
  ⟨if january ≤ 2 then year + 1 else year, january, day - (153 * month + 2) / 5 + 1⟩

theorem ofDays_eq (days : Int) : ∃ year day, ofDays days = ofMarch year day ∧
    days + epochOffset = 365 * year + leapDays year + day ∧
      (day < 365 ∨ day = 365 ∧ IsLeap (year + 1)) := by
  generalize hn : ((days + epochOffset) % eraDays).toNat = n
  generalize hera : (days + epochOffset) / eraDays = era
  have hparts : days + epochOffset = era * 146097 + n ∧ n < 146097 := by
    have hdays : (eraDays : Int) = 146097 := rfl
    rw [hdays] at hn hera
    omega
  obtain ⟨hsplit, hlt⟩ := hparts
  obtain ⟨s, hyear, hday, hs⟩ := yearOfEra_spec hlt
  have hs' : n - (365 * yearOfEra n + yearOfEra n / 4 - yearOfEra n / 100) = s := by omega
  refine ⟨era * 400 + yearOfEra n, s, ?_, ?_, ?_⟩
  · simp only [ofDays, hn, hera, ofMarch, ← hs']
    rfl
  · rw [hsplit, leapDays_era, leapDays]
    omega
  · refine hs.imp_right fun ⟨hs, hleap⟩ => ⟨hs, ?_⟩
    unfold IsLeap at hleap ⊢
    omega

/-- A year that begins in March has ten months of one calendar year and two of the next. -/
theorem ofMarch_cases {day : Nat} (h : day ≤ 365) (year : Int) :
    (∃ m ≤ 9, (153 * m + 2) / 5 ≤ day ∧ day < (153 * (m + 1) + 2) / 5 ∧
        ofMarch year day = ⟨year, m + 3, day - (153 * m + 2) / 5 + 1⟩) ∨
      (306 ≤ day ∧ day < 337 ∧ ofMarch year day = ⟨year + 1, 1, day - 306 + 1⟩) ∨
      (337 ≤ day ∧ ofMarch year day = ⟨year + 1, 2, day - 337 + 1⟩) := by
  generalize hm : (5 * day + 2) / 153 = m
  by_cases hten : m < 10
  · refine Or.inl ⟨m, by omega, by omega, by omega, ?_⟩
    simp only [ofMarch, hm, if_pos hten]
    rw [if_neg (by omega)]
  · have hcases : m = 10 ∨ m = 11 := by omega
    rcases hcases with rfl | rfl
    · refine Or.inr (Or.inl ⟨by omega, by omega, ?_⟩)
      simp only [ofMarch, hm]
      rfl
    · refine Or.inr (Or.inr ⟨by omega, ?_⟩)
      simp only [ofMarch, hm]
      rfl

/-- From March on the months are as long as the days between their beginnings. -/
theorem monthLength_march (year : Int) :
    ∀ m ≤ 9, (153 * (m + 1) + 2) / 5 = (153 * m + 2) / 5 + monthLength year (m + 3) := by
  intro m hm
  interval_cases m <;> rfl

theorem daysBeforeMonth_march (year : Int) : ∀ m ≤ 9,
    daysBeforeMonth year (m + 3) = daysBeforeMonth year 3 + (153 * m + 2) / 5 := by
  intro m hm
  induction m with
  | zero => rfl
  | succ m ih =>
    have hlength := monthLength_march year m (by omega)
    rw [daysBeforeMonth_succ year (by omega), ih (by omega), hlength, Nat.add_assoc]

theorem daysBeforeMonth_three (year : Int) :
    daysBeforeMonth year 3 = 59 + if IsLeap year then 1 else 0 := by
  simp only [daysBeforeMonth, Finset.sum_range_succ, Finset.sum_range_zero, monthLength]
  split <;> rfl

variable {year : Int} {day : Nat}

theorem valid_ofMarch (h : day < 365 ∨ day = 365 ∧ IsLeap (year + 1)) :
    (ofMarch year day).Valid := by
  have hday : day ≤ 365 := by omega
  rcases ofMarch_cases hday year with
    ⟨m, hm, hlow, hhigh, hdate⟩ | ⟨hlow, hhigh, hdate⟩ | ⟨hlow, hdate⟩
  · have hlength := monthLength_march year m hm
    rw [hdate]
    refine ⟨Nat.le_add_left _ _, Nat.add_le_add_right hm 3, Nat.succ_pos _, ?_⟩
    show day - (153 * m + 2) / 5 + 1 ≤ monthLength year (m + 3)
    omega
  · rw [hdate]
    refine ⟨Nat.le_refl 1, Nat.succ_le_succ (Nat.zero_le _), Nat.succ_pos _, ?_⟩
    show day - 306 + 1 ≤ 31
    omega
  · rw [hdate]
    refine ⟨Nat.le_succ 1, Nat.le_add_left _ _, Nat.succ_pos _, ?_⟩
    show day - 337 + 1 ≤ if IsLeap (year + 1) then 29 else 28
    rcases h with h | ⟨h, hleap⟩
    · split <;> omega
    · rw [if_pos hleap]
      omega

theorem number_ofMarch (h : day ≤ 365) (hyear : 1970 ≤ (ofMarch year day).year) :
    ((ofMarch year day).number : Int) + epochOffset = 365 * year + leapDays year + day := by
  have hoffset : epochOffset = 719468 := rfl
  have hbase : leapDays 1969 = 477 := rfl
  rcases ofMarch_cases h year with
    ⟨m, hm, hlow, hhigh, hdate⟩ | ⟨hlow, hhigh, hdate⟩ | ⟨hlow, hdate⟩
  · rw [hdate] at hyear ⊢
    have hyears := daysBeforeYear_eq hyear
    have hleap := leapDays_succ (year - 1)
    rw [sub_add_cancel] at hleap
    rw [number, daysBeforeMonth_march year m hm, daysBeforeMonth_three]
    dsimp only at hyears ⊢
    by_cases hl : IsLeap year
    · rw [if_pos hl] at hleap ⊢
      omega
    · rw [if_neg hl] at hleap ⊢
      omega
  · rw [hdate] at hyear ⊢
    have hyears := daysBeforeYear_eq hyear
    have hmonths : daysBeforeMonth (year + 1) 1 = 0 := rfl
    rw [number]
    dsimp only at hyears ⊢
    rw [add_sub_cancel_right] at hyears
    rw [hmonths]
    omega
  · rw [hdate] at hyear ⊢
    have hyears := daysBeforeYear_eq hyear
    have hmonths : daysBeforeMonth (year + 1) 2 = 31 := rfl
    rw [number]
    dsimp only at hyears ⊢
    rw [add_sub_cancel_right] at hyears
    rw [hmonths]
    omega

/-- The date of a day is valid. -/
theorem valid_ofDays (days : Int) : (ofDays days).Valid := by
  obtain ⟨year, day, hdate, -, hday⟩ := ofDays_eq days
  rw [hdate]
  exact valid_ofMarch hday

/-- From the epoch on the dates are those of 1970 and later years, ... -/
theorem year_ofDays (n : Nat) : 1970 ≤ (ofDays n).year := by
  obtain ⟨year, day, hdate, hdays, hday⟩ := ofDays_eq n
  have hoffset : epochOffset = 719468 := rfl
  rw [hdate]
  have hday : day ≤ 365 := by omega
  rcases ofMarch_cases hday year with
    ⟨m, hm, hlow, hhigh, hdate⟩ | ⟨hlow, hhigh, hdate⟩ | ⟨hlow, hdate⟩
  all_goals
    rw [hdate]
    unfold leapDays at hdays
    dsimp only
    omega

/-- ... numbered by their days. -/
theorem number_ofDays (n : Nat) : (ofDays n).number = n := by
  have hyear := year_ofDays n
  obtain ⟨year, day, hdate, hdays, hday⟩ := ofDays_eq n
  rw [hdate] at hyear ⊢
  have hnumber := number_ofMarch (by omega) hyear
  omega

theorem year_ofDays_le (n : Nat) : (ofDays n).year ≤ 1970 + n / 365 := by
  have hyears := le_daysBeforeYear (ofDays n).year
  have hnumber := number_ofDays n
  rw [number] at hnumber
  omega

end Date

end StepUp
