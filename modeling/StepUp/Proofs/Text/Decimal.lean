import Mathlib.Algebra.Group.Nat.Defs
import StepUp.Text.Decimal

/-!
# Numerals

A decimal numeral consists of digits, starts with zero only if it is zero, has as many digits as
its number needs and denotes its number (`Text.toNat_ofNat`). A numeral of fixed width is written
digit by digit (`Text.padZero_succ`, `Text.hex_succ`) and denotes its number as well
(`Text.toNat_padZero`), and of two such numerals the smaller one comes first (`Text.le_padZero`).
-/

namespace StepUp

namespace CodePoint

theorem val_ofChar (c : Char) : (ofChar c).val = c.toNat := rfl

theorem ofNat_eq {c : CodePoint} {n : Nat} (h : c.val = n) : ofNat n = c := by
  subst h
  exact dif_pos c.isLt

theorem ofChar_inj {c d : Char} : ofChar c = ofChar d ↔ c = d := by
  simp only [ofChar, CodePoint.mk.injEq, Char.toNat_inj]

end CodePoint

namespace Text

theorem ofNat_eq_map (n : Nat) : ofNat n = (Nat.toDigits 10 n).map CodePoint.ofChar :=
  congrArg (List.map CodePoint.ofChar) Nat.toList_repr

theorem ofNat_ne_nil (n : Nat) : ofNat n ≠ [] := by
  rw [ofNat_eq_map]
  exact fun h => Nat.toDigits_ne_nil (List.map_eq_nil_iff.mp h)

theorem length_ofNat_le_iff {n k : Nat} (hk : 0 < k) : (ofNat n).length ≤ k ↔ n < 10 ^ k := by
  rw [ofNat_eq_map, List.length_map]
  exact Nat.length_toDigits_le_iff (by decide) hk

theorem isAsciiDigit_of_mem_ofNat {n : Nat} {c : CodePoint} (h : c ∈ ofNat n) :
    c.isAsciiDigit = true := by
  rw [ofNat_eq_map] at h
  obtain ⟨d, hd, rfl⟩ := List.mem_map.mp h
  have hdigit : d.isDigit = true := Nat.isDigit_of_mem_toDigits (by decide) (by decide) hd
  simp only [Char.isDigit, Bool.and_eq_true, decide_eq_true_eq, ge_iff_le, UInt32.le_iff_toNat_le]
    at hdigit
  rw [CodePoint.isAsciiDigit, CodePoint.val_ofChar, Bool.and_eq_true, decide_eq_true_eq,
    decide_eq_true_eq]
  exact hdigit

theorem exists_cons_ofNat (n : Nat) :
    ∃ c more, ofNat n = c :: more ∧ c.isAsciiDigit = true := by
  obtain ⟨c, more, hcons⟩ := List.exists_cons_of_ne_nil (ofNat_ne_nil n)
  exact ⟨c, more, hcons, isAsciiDigit_of_mem_ofNat (hcons ▸ List.mem_cons_self)⟩

/-- A numeral that starts with zero is the numeral of zero. -/
theorem eq_zero_of_head_ofNat {n : Nat} (h : (ofNat n).head? = some (CodePoint.ofChar '0')) :
    n = 0 := by
  rw [ofNat_eq_map, List.head?_map] at h
  induction n using Nat.strongRecOn with
  | ind n ih =>
    by_cases hn : n < 10
    · rw [Nat.toDigits_of_lt_base hn] at h
      exact Nat.digitChar_eq_zero.mp (CodePoint.ofChar_inj.mp (Option.some_inj.mp h))
    · have hten : 10 ≤ n := Nat.le_of_not_lt hn
      have hhead : (Nat.toDigits 10 n).head? = (Nat.toDigits 10 (n / 10)).head? := by
        rw [Nat.toDigits_of_base_le (by decide) hten, List.head?_append,
          Option.or_of_isSome (List.isSome_head?.mpr Nat.toDigits_ne_nil)]
      have hzero : n / 10 = 0 := ih (n / 10) (by omega) (hhead ▸ h)
      omega

theorem toNat_map (cs : List Char) :
    toNat (cs.map CodePoint.ofChar) = Nat.ofDigitChars 10 cs 0 := by
  rw [toNat, List.foldl_map, Nat.ofDigitChars_eq_foldl]
  rfl

theorem toNat_ofNat (n : Nat) : toNat (ofNat n) = n := by
  rw [ofNat_eq_map, toNat_map, Nat.ofDigitChars_ten_toDigits]

/-! ## Numerals of fixed width -/

/-- The lower case digit of a number below sixteen. -/
def hexDigit (n : Nat) : CodePoint := CodePoint.ofChar n.digitChar

theorem hexValue?_hexDigit : ∀ {n : Nat}, n < 16 → (hexDigit n).hexValue? = some n := by
  decide

theorem ofNatBase_of_lt {b n : Nat} (h : n < b) : ofNatBase b n = [hexDigit n] := by
  rw [ofNatBase, Nat.toDigits_of_lt_base h]
  rfl

theorem padZero_one {b n : Nat} (h : n < b) : padZero 1 (ofNatBase b n) = [hexDigit n] := by
  rw [ofNatBase_of_lt h]
  rfl

/-- The last digit of a numeral is that of the remainder. -/
theorem padZero_succ {b w n : Nat} (hb : 1 < b) (hw : 0 < w) :
    padZero (w + 1) (ofNatBase b n) = padZero w (ofNatBase b (n / b)) ++ [hexDigit (n % b)] := by
  by_cases hn : n < b
  · obtain ⟨w, rfl⟩ := Nat.exists_eq_succ_of_ne_zero (Nat.ne_of_gt hw)
    rw [Nat.div_eq_of_lt hn, Nat.mod_eq_of_lt hn, ofNatBase_of_lt hn,
      ofNatBase_of_lt (Nat.lt_of_succ_lt hb)]
    have hzero : hexDigit 0 = CodePoint.ofChar '0' := by decide
    simp [padZero, List.replicate_succ', hzero]
  · have hdigits : ofNatBase b n = ofNatBase b (n / b) ++ [hexDigit (n % b)] := by
      rw [ofNatBase, Nat.toDigits_of_base_le hb (Nat.le_of_not_lt hn), List.map_append]
      rfl
    rw [hdigits, padZero, padZero, List.length_append, List.length_singleton,
      Nat.add_sub_add_right, List.append_assoc]

theorem hex_one {n : Nat} (h : n < 16) : hex 1 n = [hexDigit n] := padZero_one h

theorem hex_succ {w n : Nat} (hw : 0 < w) :
    hex (w + 1) n = hex w (n / 16) ++ [hexDigit (n % 16)] := padZero_succ (by decide) hw

theorem hex_four {n : Nat} (h : n < 0x10000) :
    hex 4 n = [hexDigit (n / 4096), hexDigit (n / 256 % 16), hexDigit (n / 16 % 16),
      hexDigit (n % 16)] := by
  rw [hex_succ (by decide), hex_succ (by decide), hex_succ (by decide), hex_one (by omega)]
  simp only [Nat.div_div_eq_div_mul]
  rfl

/-! ## Decimal numerals of fixed width -/

variable {w m n : Nat}

theorem length_padZero_ofNat (hw : 0 < w) (h : n < 10 ^ w) : (padZero w (ofNat n)).length = w := by
  have hle := (length_ofNat_le_iff hw).mpr h
  rw [padZero, List.length_append, List.length_replicate]
  omega

theorem isAsciiDigit_of_mem_padZero {c : CodePoint} (h : c ∈ padZero w (ofNat n)) :
    c.isAsciiDigit = true := by
  rcases List.mem_append.mp h with h | h
  · rw [List.eq_of_mem_replicate h]
    rfl
  · exact isAsciiDigit_of_mem_ofNat h

theorem toNat_replicate_append (k : Nat) (t : Text) :
    toNat (List.replicate k (CodePoint.ofChar '0') ++ t) = toNat t := by
  induction k with
  | zero => rfl
  | succ k ih => exact ih

theorem toNat_padZero (w n : Nat) : toNat (padZero w (ofNat n)) = n := by
  rw [padZero, toNat_replicate_append, toNat_ofNat]

theorem le_append_left (p s t : Text) : le (p ++ s) (p ++ t) = le s t := by
  induction p with
  | nil => rfl
  | cons c p ih => simp [le, ih]

theorem le_hexDigit (hm : m < 10) (hn : n < 10) {s t : Text}
    (h : m < n ∨ m = n ∧ le s t = true) : le (hexDigit m :: s) (hexDigit n :: t) = true := by
  have hval : ∀ d < 10, (hexDigit d).val = d + 0x30 := by decide
  rw [le, hval m hm, hval n hn]
  rcases h with h | ⟨rfl, h⟩
  · simp [h]
  · simp [h]

/-- Texts that begin with numerals of one width are in the order of the numbers, and where these
are the same, in the order of what follows. -/
theorem le_padZero (hw : 0 < w) (hm : m < 10 ^ w) (hn : n < 10 ^ w) {s t : Text}
    (h : m < n ∨ m = n ∧ le s t = true) :
    le (padZero w (ofNat m) ++ s) (padZero w (ofNat n) ++ t) = true := by
  rw [ofNat_eq_map, ofNat_eq_map, ← ofNatBase, ← ofNatBase]
  induction w generalizing m n s t with
  | zero => cases hw
  | succ w ih =>
    by_cases hzero : w = 0
    · subst hzero
      have hm' : m < 10 := hm
      have hn' : n < 10 := hn
      rw [padZero_one hm', padZero_one hn']
      exact le_hexDigit hm' hn' h
    · have hpos : 0 < w := Nat.pos_of_ne_zero hzero
      rw [Nat.pow_succ] at hm hn
      rw [padZero_succ (by decide) hpos, padZero_succ (by decide) hpos, List.append_assoc,
        List.append_assoc]
      refine ih hpos (by omega) (by omega) ?_
      -- the numbers before the last digit decide, or else the last digit does
      by_cases hhead : m / 10 < n / 10
      · exact Or.inl hhead
      · have hsame : m / 10 = n / 10 := by omega
        refine Or.inr ⟨hsame, le_hexDigit (by omega) (by omega) ?_⟩
        exact h.imp (by omega) fun ⟨heq, hle⟩ => ⟨by omega, hle⟩

end Text

end StepUp
