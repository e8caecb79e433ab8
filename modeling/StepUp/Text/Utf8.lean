import StepUp.Text.Decimal

/-!
# UTF-8

Reading refuses overlong forms, surrogates, numbers above the last code point and sequences cut
short, and says which octets are to blame. Writing is total; what to do with surrogates, which
have no UTF-8 form, is left to the caller.
-/

namespace StepUp.Utf8

inductive Reason where
  | invalidStart
  | invalidContinuation
  | unexpectedEnd
deriving DecidableEq

/-- `count` octets from `position` on, the first of them `octet`, are not UTF-8. -/
structure Fault where
  reason : Reason
  octet : Nat
  position : Nat
  count : Nat
deriving DecidableEq

def Reason.text : Reason → Text
  | .invalidStart => "invalid start byte"
  | .invalidContinuation => "invalid continuation byte"
  | .unexpectedEnd => "unexpected end of data"

def Fault.message (f : Fault) : Text :=
  "'utf-8' codec can't decode " ++
    (if f.count = 1 then
      "byte 0x" ++ Text.hex 2 f.octet ++ " in position " ++ Text.ofNat f.position
    else
      "bytes in position " ++ Text.ofNat f.position ++ "-"
        ++ Text.ofNat (f.position + f.count - 1))
    ++ ": " ++ f.reason.text

/-- The number of octets after a lead octet, and the range of the first of them. -/
def lead? (b : Nat) : Option (Nat × Nat × Nat) :=
  if 0xC2 ≤ b && b ≤ 0xDF then some (1, 0x80, 0xBF)
  else if b = 0xE0 then some (2, 0xA0, 0xBF)
  else if b = 0xED then some (2, 0x80, 0x9F)
  else if 0xE1 ≤ b && b ≤ 0xEF then some (2, 0x80, 0xBF)
  else if b = 0xF0 then some (3, 0x90, 0xBF)
  else if 0xF1 ≤ b && b ≤ 0xF3 then some (3, 0x80, 0xBF)
  else if b = 0xF4 then some (3, 0x80, 0x8F)
  else none

/-- What follows a lead octet: the number read so far, how many octets it still needs, the range
of the next one, and where the sequence began. -/
structure Pending where
  value : Nat
  missing : Nat
  lowest : Nat
  highest : Nat
  octet : Nat
  start : Nat

/-- One pass over the octets, with the sequence that is open, if any. -/
def scan : Nat → Option Pending → List UInt8 → Except Fault Text
  | _, none, [] => .ok []
  | position, some p, [] => .error ⟨.unexpectedEnd, p.octet, p.start, position - p.start⟩
  | position, none, b :: rest =>
    let n := b.toNat
    if n < 0x80 then (CodePoint.ofNat n :: ·) <$> scan (position + 1) none rest
    else match lead? n with
      | none => .error ⟨.invalidStart, n, position, 1⟩
      | some (count, lowest, highest) =>
        let value := n % Nat.pow 2 (6 - count)
        scan (position + 1) (some ⟨value, count, lowest, highest, n, position⟩) rest
  | position, some p, b :: rest =>
    let n := b.toNat
    if n < p.lowest || p.highest < n then
      .error ⟨.invalidContinuation, p.octet, p.start, position - p.start⟩
    else
      let value := 64 * p.value + n % 64
      if p.missing ≤ 1 then (CodePoint.ofNat value :: ·) <$> scan (position + 1) none rest
      else scan (position + 1)
        (some ⟨value, p.missing - 1, 0x80, 0xBF, p.octet, p.start⟩) rest

def decode (octets : List UInt8) : Except Fault Text := scan 0 none octets

/-- The octets of one code point, surrogates by the general rule. -/
def encodeCodePoint (c : CodePoint) : List UInt8 :=
  let n := c.val
  let tail (shift : Nat) : UInt8 := UInt8.ofNat (0x80 + n / Nat.pow 2 shift % 64)
  if n < 0x80 then [UInt8.ofNat n]
  else if n < 0x800 then [UInt8.ofNat (0xC0 + n / Nat.pow 2 6), tail 0]
  else if n < 0x10000 then [UInt8.ofNat (0xE0 + n / Nat.pow 2 12), tail 6, tail 0]
  else [UInt8.ofNat (0xF0 + n / Nat.pow 2 18), tail 12, tail 6, tail 0]

def encode (t : Text) : List UInt8 := t.flatMap encodeCodePoint

end StepUp.Utf8
