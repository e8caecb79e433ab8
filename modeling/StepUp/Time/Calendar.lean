import StepUp.Text.Decimal

/-!
# The Gregorian calendar

Days are counted from 1 January 1970. A date is found within its era of 400 years, counted from
1 March, so that a leap day is the last day of its year.
-/

namespace StepUp

structure Date where
  year : Int
  month : Nat
  day : Nat
deriving DecidableEq

namespace Date

/-- Days of an era of 400 years. -/
def eraDays : Nat := 146097

/-- Day of the epoch counted from 1 March of the year 0. -/
def epochOffset : Int := 719468

def ofDays (days : Int) : Date :=
  let shifted := days + epochOffset
  let era := shifted / eraDays
  let dayOfEra := (shifted % eraDays).toNat
  let yearOfEra :=
    (dayOfEra - dayOfEra / 1460 + dayOfEra / 36524 - dayOfEra / 146096) / 365
  let dayOfYear := dayOfEra - (365 * yearOfEra + yearOfEra / 4 - yearOfEra / 100)
  let monthFromMarch := (5 * dayOfYear + 2) / 153
  let day := dayOfYear - (153 * monthFromMarch + 2) / 5 + 1
  let month := if monthFromMarch < 10 then monthFromMarch + 3 else monthFromMarch - 9
  let year := era * 400 + yearOfEra
  ⟨if month ≤ 2 then year + 1 else year, month, day⟩

end Date

end StepUp
