import StepUp.Text.Decimal

/-!
# Binary floating point of 64 bits

Values are kept as sign, mantissa and exponent, so that every operation is integer arithmetic.
`Binary64.ofRatio` rounds a quotient to the nearest value, a tie going to the even mantissa;
`Binary64.shortest` finds the shortest decimal that rounds back to the value.
-/

namespace StepUp

/-- The quotient rounded to the nearest integer, a tie to the even one. -/
def roundDiv (num den : Nat) : Nat :=
  let q := num / den
  let r := num % den
  if den < 2 * r || (2 * r == den && q % 2 == 1) then q + 1 else q

/-- `mantissa * 2 ^ exponent` with a sign, an infinity, or no number. In a nonzero value made by
`ofRatio` the mantissa has 53 bits, or fewer at the least exponent, which is -1074. -/
inductive Binary64 where
  | finite (negative : Bool) (mantissa : Nat) (exponent : Int)
  | infinity (negative : Bool)
  | nan
deriving DecidableEq

namespace Binary64

/-- `num / den` in units of `2 ^ exponent`, as a quotient of naturals. -/
def inUnits (num den : Nat) (exponent : Int) : Nat × Nat :=
  (num * Nat.pow 2 (-exponent).toNat, den * Nat.pow 2 exponent.toNat)

/-- The value nearest to `num / den`. -/
def ofRatio (negative : Bool) (num den : Nat) : Binary64 :=
  if num = 0 then .finite negative 0 (-1074)
  else
    let estimate := max (-1074) ((num.log2 : Int) - den.log2 - 53)
    let (n, d) := inUnits num den estimate
    let exponent := if n / d < Nat.pow 2 53 then estimate else estimate + 1
    let (n, d) := inUnits num den exponent
    let mantissa := roundDiv n d
    let (mantissa, exponent) :=
      if mantissa = Nat.pow 2 53 then (Nat.pow 2 52, exponent + 1) else (mantissa, exponent)
    if 971 < exponent then .infinity negative else .finite negative mantissa exponent

def ofInt (n : Int) : Binary64 := ofRatio (n < 0) n.natAbs 1

/-- The value nearest to `digits * 10 ^ exponent`. Far outside the range no power is computed. -/
def ofDecimal (negative : Bool) (digits : Nat) (exponent : Int) : Binary64 :=
  let size : Int := (Nat.toDigits 10 digits).length + exponent
  if digits = 0 || size < -330 then .finite negative 0 (-1074)
  else if 310 < size then .infinity negative
  else ofRatio negative (digits * Nat.pow 10 exponent.toNat) (Nat.pow 10 (-exponent).toNat)

def isFinite : Binary64 → Bool
  | .finite .. => true
  | _ => false

def isZero : Binary64 → Bool
  | .finite _ 0 _ => true
  | _ => false

/-- The magnitude of a finite value as a quotient of naturals. -/
def ratio (mantissa : Nat) (exponent : Int) : Nat × Nat :=
  (mantissa * Nat.pow 2 exponent.toNat, Nat.pow 2 (-exponent).toNat)

/-- The integer part, toward zero. -/
def truncate? : Binary64 → Option Int
  | .finite negative mantissa exponent =>
    let (n, d) := ratio mantissa exponent
    some (if negative then -((n / d : Nat) : Int) else ((n / d : Nat) : Int))
  | _ => none

def isIntegral : Binary64 → Bool
  | .finite _ mantissa exponent =>
    let (n, d) := ratio mantissa exponent
    n % d == 0
  | _ => false

/-- The candidates of the grid of step `10 ^ k` next to `mantissa * 2 ^ exponent` that round back
to it; of two the nearer, and of two equally near the even one. All quantities are measured in
quarters of a unit of the last place, so that the ends of the interval are integers. -/
def onGrid? (mantissa : Nat) (exponent : Int) (k : Int) : Option Nat :=
  let scale := Nat.pow 2 (exponent - 2).toNat * Nat.pow 10 (-k).toNat
  let step := Nat.pow 2 (2 - exponent).toNat * Nat.pow 10 k.toNat
  let below := if mantissa = Nat.pow 2 52 && exponent != -1074 then 1 else 2
  let value := 4 * mantissa * scale
  let low := (4 * mantissa - below) * scale
  let high := (4 * mantissa + 2) * scale
  let fits (c : Nat) : Bool :=
    if mantissa % 2 = 0 then low ≤ c * step && c * step ≤ high
    else low < c * step && c * step < high
  let floor := value / step
  let rest := value % step
  match fits floor, fits (floor + 1) with
  | true, true =>
    some (if 2 * rest < step || (2 * rest == step && floor % 2 == 0) then floor else floor + 1)
  | true, false => some floor
  | false, true => some (floor + 1)
  | false, false => none

/-- Digits `c` and exponent `k` of the shortest decimal `c * 10 ^ k` that rounds to a nonzero
value: the first hit on grids from coarse to fine. -/
def shortest (mantissa : Nat) (exponent : Int) : Nat × Int :=
  let grids := (List.range 654).map fun (i : Nat) => (309 : Int) - i
  (grids.findSome? fun k => (onGrid? mantissa exponent k).map (·, k)).getD (0, 0)

/-- Positional notation from `1e-4` up to `1e16`, otherwise an exponent of at least two digits. -/
def render : Binary64 → Text
  | .nan => "nan"
  | .infinity negative => if negative then "-inf" else "inf"
  | .finite negative mantissa exponent =>
    let sign : Text := if negative then "-" else []
    if mantissa = 0 then sign ++ "0.0"
    else
      let (c, k) := shortest mantissa exponent
      let digits := Text.ofNat c
      let point : Int := digits.length + k
      sign ++
        if -4 < point && point ≤ 16 then
          if point ≤ 0 then "0." ++ List.replicate (-point).toNat (CodePoint.ofChar '0') ++ digits
          else if digits.length ≤ point.toNat then
            digits ++ List.replicate (point.toNat - digits.length) (CodePoint.ofChar '0') ++ ".0"
          else digits.take point.toNat ++ "." ++ digits.drop point.toNat
        else
          let e := point - 1
          digits.take 1 ++ (if 1 < digits.length then "." ++ digits.drop 1 else [])
            ++ (if e < 0 then "e-" else "e+") ++ Text.padZero 2 (Text.ofNat e.natAbs)

end Binary64

end StepUp
