import StepUp.Time.Calendar
import StepUp.Number.Binary64

/-!
# Instants

An instant is a whole number of microseconds from the epoch. It is written in UTC down to the
millisecond, the rest cut off. The clock hands out seconds as a binary floating point number, so
`Instant.ofClock?` goes through that rounding; it refuses what has no date.
-/

namespace StepUp

structure Instant where
  micros : Int
deriving DecidableEq

/-- Why a clock reading has no timestamp. -/
inductive ClockFault where
  | year (year : Int)
  | calendarRange
  | clockRange
  | secondsRange
deriving DecidableEq

namespace ClockFault

def message : ClockFault → Text
  | .year y => "year " ++ Text.ofInt y ++ " is out of range"
  | .calendarRange => "[Errno 75] Value too large for defined data type"
  | .clockRange => "timestamp out of range for platform time_t"
  | .secondsRange => "integer division result too large for a float"

end ClockFault

namespace Instant

def seconds (t : Instant) : Int := t.micros / 1000000

def date (t : Instant) : Date := Date.ofDays (t.seconds / 86400)

/-- `YYYY-MM-DDTHH:MM:SS.mmmZ`. -/
def render (t : Instant) : Text :=
  let date := t.date
  let second := (t.seconds % 86400).toNat
  let two (n : Nat) : Text := Text.padZero 2 (Text.ofNat n)
  Text.padZero 4 (Text.ofInt date.year) ++ "-" ++ two date.month ++ "-" ++ two date.day ++ "T"
    ++ two (second / 3600) ++ ":" ++ two (second / 60 % 60) ++ ":" ++ two (second % 60)
    ++ "." ++ Text.padZero 3 (Text.ofNat ((t.micros % 1000000).toNat / 1000)) ++ "Z"

/-- The microseconds of a number of seconds: the integer part exactly, the fraction by one rounded
multiplication and then to the nearest integer, a tie to the even one. -/
def ofSeconds : Binary64 → Option Instant
  | .finite negative mantissa exponent =>
    let (n, d) := Binary64.ratio mantissa exponent
    let fraction := match Binary64.ofRatio false (n % d * 1000000) d with
      | .finite _ m e => let (p, q) := Binary64.ratio m e; roundDiv p q
      | _ => 0
    let micros : Int := (n / d * 1000000 + fraction : Nat)
    some ⟨if negative then -micros else micros⟩
  | _ => none

/-- The years that a broken-down time can hold. -/
def calendarYears (year : Int) : Bool := -2147481748 ≤ year && year ≤ 2147485547

/-- The instant that a clock means by a number of microseconds, if it can be dated. -/
def ofClock? (micros : Int) : Except ClockFault Instant :=
  match ofSeconds (Binary64.ofRatio (micros < 0) micros.natAbs 1000000) with
  | none => .error .secondsRange
  | some t =>
    if t.seconds < -(Nat.pow 2 63 : Int) || Nat.pow 2 63 ≤ t.seconds then .error .clockRange
    else
      let year := t.date.year
      if !calendarYears year then .error .calendarRange
      else if year < 1 || 9999 < year then .error (.year year)
      else .ok t

end Instant

end StepUp
