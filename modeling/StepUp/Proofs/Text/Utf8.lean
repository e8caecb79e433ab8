import Mathlib.Tactic.SplitIfs
import StepUp.Proofs.Text.Decimal
import StepUp.Text.Utf8

/-!
# UTF-8 is read back

A text without surrogates is what its octets are read as (`Utf8.decode_encode`).
-/

namespace StepUp.Utf8

/-- The octets are a whole text, wherever they begin. -/
def Reads (octets : List UInt8) (t : Text) : Prop :=
  ∀ position, scan position none octets = .ok t

/-- The octets complete a sequence that is open and go on with a text. -/
def Completes (value missing lowest highest : Nat) (octets : List UInt8) (t : Text) : Prop :=
  ∀ position octet start,
    scan position (some ⟨value, missing, lowest, highest, octet, start⟩) octets = .ok t

/-- A continuation octet with its six bits. -/
def continuation (bits : Nat) : UInt8 := UInt8.ofNat (0x80 + bits)

theorem toNat_ofNat {n : Nat} (h : n < 0x100) : (UInt8.ofNat n).toNat = n := by
  rw [UInt8.toNat_ofNat', Nat.mod_eq_of_lt h]

section Steps

variable {rest : List UInt8} {t : Text}

theorem reads_ascii {c : CodePoint} (hc : c.val < 0x80) (h : Reads rest t) :
    Reads (UInt8.ofNat c.val :: rest) (c :: t) := by
  intro position
  simp only [scan, toNat_ofNat (show c.val < 0x100 by omega), if_pos hc, h (position + 1),
    CodePoint.ofNat_eq rfl]
  rfl

/-- A lead octet opens a sequence. -/
theorem reads_lead {n value count lowest highest : Nat} (hn : 0x80 ≤ n) (hlt : n < 0x100)
    (hlead : lead? n = some (count, lowest, highest)) (hvalue : n % Nat.pow 2 (6 - count) = value)
    (h : Completes value count lowest highest rest t) : Reads (UInt8.ofNat n :: rest) t := by
  subst hvalue
  intro position
  simp only [scan, toNat_ofNat hlt, if_neg (Nat.not_lt.mpr hn), hlead]
  exact h _ _ _

theorem completes_last {value bits lowest highest : Nat} {c : CodePoint} (hbits : bits < 64)
    (hlow : lowest ≤ 0x80 + bits) (hhigh : 0x80 + bits ≤ highest) (hc : c.val = 64 * value + bits)
    (h : Reads rest t) :
    Completes value 1 lowest highest (continuation bits :: rest) (c :: t) := by
  rw [← CodePoint.ofNat_eq hc]
  intro position octet start
  have hrange : ¬ ((0x80 + bits < lowest || highest < 0x80 + bits) = true) := by
    simp only [Bool.or_eq_true, decide_eq_true_eq]
    omega
  have hmod : (0x80 + bits) % 64 = bits := by omega
  simp only [scan, continuation, toNat_ofNat (show 0x80 + bits < 0x100 by omega), if_neg hrange,
    hmod, Nat.le_refl, if_true, h (position + 1)]
  rfl

theorem completes_more {value more bits missing lowest highest : Nat} (hbits : bits < 64)
    (hlow : lowest ≤ 0x80 + bits) (hhigh : 0x80 + bits ≤ highest) (hmore : 64 * value + bits = more)
    (h : Completes more (missing + 1) 0x80 0xBF rest t) :
    Completes value (missing + 2) lowest highest (continuation bits :: rest) t := by
  subst hmore
  intro position octet start
  have hrange : ¬ ((0x80 + bits < lowest || highest < 0x80 + bits) = true) := by
    simp only [Bool.or_eq_true, decide_eq_true_eq]
    omega
  have hmod : (0x80 + bits) % 64 = bits := by omega
  simp only [scan, continuation, toNat_ofNat (show 0x80 + bits < 0x100 by omega), if_neg hrange,
    hmod, if_neg (show ¬ missing + 2 ≤ 1 by omega)]
  exact h _ _ _

end Steps

theorem lead?_two {k : Nat} (h2 : 2 ≤ k) (hk : k < 32) :
    lead? (0xC0 + k) = some (1, 0x80, 0xBF) := by
  rw [lead?, if_pos]
  simp only [Bool.and_eq_true, decide_eq_true_eq]
  omega

/-- The octet behind a lead octet of three is in the range that the lead octet leaves. -/
theorem lead?_three (k bits : Nat) (hk : k < 16) (hbits : bits < 64) (hzero : k = 0 → 0x20 ≤ bits)
    (hsurrogate : k = 13 → bits < 0x20) :
    ∃ lowest highest, lead? (0xE0 + k) = some (2, lowest, highest) ∧ lowest ≤ 0x80 + bits ∧
      0x80 + bits ≤ highest := by
  by_cases h0 : k = 0
  · subst h0
    exact ⟨0xA0, 0xBF, rfl, by omega, by omega⟩
  by_cases h13 : k = 13
  · subst h13
    exact ⟨0x80, 0x9F, rfl, by omega, by omega⟩
  refine ⟨0x80, 0xBF, ?_, by omega, by omega⟩
  rw [lead?, if_neg, if_neg (by omega), if_neg (by omega), if_pos]
  · simp only [Bool.and_eq_true, decide_eq_true_eq]
    omega
  · simp only [Bool.and_eq_true, decide_eq_true_eq]
    omega

theorem lead?_four (k bits : Nat) (hk : k < 5) (hbits : bits < 64) (hzero : k = 0 → 0x10 ≤ bits)
    (hfour : k = 4 → bits < 0x10) :
    ∃ lowest highest, lead? (0xF0 + k) = some (3, lowest, highest) ∧ lowest ≤ 0x80 + bits ∧
      0x80 + bits ≤ highest := by
  obtain rfl | rfl | rfl | rfl | rfl : k = 0 ∨ k = 1 ∨ k = 2 ∨ k = 3 ∨ k = 4 := by omega
  · exact ⟨0x90, 0xBF, rfl, by omega, by omega⟩
  · exact ⟨0x80, 0xBF, rfl, by omega, by omega⟩
  · exact ⟨0x80, 0xBF, rfl, by omega, by omega⟩
  · exact ⟨0x80, 0xBF, rfl, by omega, by omega⟩
  · exact ⟨0x80, 0x8F, rfl, by omega, by omega⟩

/-- A code point is read from its octets. -/
theorem reads_encodeCodePoint {c : CodePoint} (hc : c.isSurrogate = false) {rest : List UInt8}
    {t : Text} (h : Reads rest t) : Reads (encodeCodePoint c ++ rest) (c :: t) := by
  have hlt := c.isLt
  simp only [CodePoint.isSurrogate, Bool.and_eq_false_iff, decide_eq_false_iff_not] at hc
  simp only [encodeCodePoint, Nat.pow_eq, Nat.reducePow, Nat.div_one]
  split_ifs with hone htwo hthree
  · exact reads_ascii hone h
  · exact reads_lead (by omega) (by omega) (lead?_two (by omega) (by omega))
      (show (0xC0 + c.val / 64) % 32 = c.val / 64 by omega)
      (completes_last (by omega) (by omega) (by omega) (by omega) h)
  · obtain ⟨lowest, highest, hlead, hlow, hhigh⟩ := lead?_three (c.val / 4096)
      (c.val / 64 % 64) (by omega) (by omega) (by omega) (by omega)
    exact reads_lead (by omega) (by omega) hlead
      (show (0xE0 + c.val / 4096) % 16 = c.val / 4096 by omega)
      (completes_more (by omega) hlow hhigh (show _ = c.val / 64 by omega)
        (completes_last (by omega) (by omega) (by omega) (by omega) h))
  · obtain ⟨lowest, highest, hlead, hlow, hhigh⟩ := lead?_four (c.val / 262144)
      (c.val / 4096 % 64) (by omega) (by omega) (by omega) (by omega)
    exact reads_lead (by omega) (by omega) hlead
      (show (0xF0 + c.val / 262144) % 8 = c.val / 262144 by omega)
      (completes_more (by omega) hlow hhigh (show _ = c.val / 4096 by omega)
        (completes_more (by omega) (by omega) (by omega) (show _ = c.val / 64 by omega)
          (completes_last (by omega) (by omega) (by omega) (by omega) h)))

theorem reads_encode {t : Text} (h : ∀ c ∈ t, c.isSurrogate = false) : Reads (encode t) t := by
  induction t with
  | nil => exact fun _ => rfl
  | cons c t ih =>
    obtain ⟨hc, ht⟩ := List.forall_mem_cons.mp h
    exact reads_encodeCodePoint hc (ih ht)

/-- **A text without surrogates survives UTF-8.** -/
theorem decode_encode {t : Text} (h : ∀ c ∈ t, c.isSurrogate = false) :
    decode (encode t) = .ok t :=
  reads_encode h 0

end StepUp.Utf8
