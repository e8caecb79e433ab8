import StepUp.Text.CodePoint

/-!
# Decimal and hexadecimal numerals
-/

namespace StepUp.Text

def ofNat (n : Nat) : Text := ofString (Nat.repr n)

def ofInt : Int → Text
  | .ofNat n => ofNat n
  | .negSucc n => CodePoint.ofChar '-' :: ofNat (n + 1)

/-- The number that a text of ASCII digits denotes; other code points count as zero. -/
def toNat (digits : Text) : Nat :=
  digits.foldl (fun n c => 10 * n + (c.val - 0x30)) 0

def toInt (negative : Bool) (digits : Text) : Int :=
  if negative then - (toNat digits : Int) else toNat digits

/-- At least `width` characters, zeros in front. -/
def padZero (width : Nat) (t : Text) : Text :=
  List.replicate (width - t.length) (CodePoint.ofChar '0') ++ t

/-- At least `width` characters, spaces in front. -/
def padLeft (width : Nat) (t : Text) : Text :=
  List.replicate (width - t.length) (CodePoint.ofChar ' ') ++ t

/-- Lower case digits to a base up to sixteen. -/
def ofNatBase (base n : Nat) : Text := (Nat.toDigits base n).map CodePoint.ofChar

/-- Lower case hexadecimal digits, at least `width` of them. -/
def hex (width n : Nat) : Text := padZero width (ofNatBase 16 n)

end StepUp.Text
