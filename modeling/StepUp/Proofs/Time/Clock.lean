import Mathlib
import StepUp.Proofs.Time.Calendar
import StepUp.Time.Instant

/-!
# What the clock means

The clock hands out seconds as binary floating point numbers, and microseconds are made of these
again. Each of the two roundings misses by half a unit of the last place at most
(`Binary64.ofRatio_near`). Below `2 ^ 32` seconds that is less than half a microsecond altogether
(`Instant.fraction_near`), so that the instant is the one that the clock means
(`Instant.ofClock?_ok`).
-/

namespace StepUp

/-! ## The nearest integer -/

theorem roundDiv_near (num : Nat) {den : Nat} (h : 0 < den) :
    2 * (roundDiv num den * den) ≤ 2 * num + den ∧
      2 * num ≤ 2 * (roundDiv num den * den) + den := by
  have hparts := Nat.div_add_mod num den
  have hlt := Nat.mod_lt num h
  rw [Nat.mul_comm] at hparts
  unfold roundDiv
  dsimp only
  split
  · next hup =>
    simp only [Bool.or_eq_true, decide_eq_true_eq, Bool.and_eq_true, beq_iff_eq] at hup
    rw [Nat.add_mul, Nat.one_mul]
    omega
  · next hdown =>
    simp only [Bool.or_eq_true, decide_eq_true_eq, Bool.and_eq_true, beq_iff_eq, not_or] at hdown
    omega

theorem roundDiv_eq {num den n : Nat} (h : 2 * (n * den) < 2 * num + den)
    (h' : 2 * num < 2 * (n * den) + den) : roundDiv num den = n := by
  have hden : 0 < den := by omega
  obtain ⟨hlow, hhigh⟩ := roundDiv_near num hden
  have hle : roundDiv num den ≤ n := by
    by_contra hlt
    have := Nat.mul_le_mul_right den (Nat.lt_of_not_le hlt)
    rw [Nat.succ_mul] at this
    omega
  have hge : n ≤ roundDiv num den := by
    by_contra hlt
    have := Nat.mul_le_mul_right den (Nat.lt_of_not_le hlt)
    rw [Nat.succ_mul] at this
    omega
  omega

namespace Binary64

/-! ## The nearest value -/

variable {num den : Nat}

theorem inUnits_neg (num den k : Nat) : inUnits num den (-(k : Int)) = (num * 2 ^ k, den) := by
  have hdown : (- -(k : Int)).toNat = k := by omega
  have hup : (-(k : Int)).toNat = 0 := by omega
  rw [inUnits, hdown, hup]
  exact congrArg (Prod.mk _) (Nat.mul_one den)

/-- A quotient below `2 ^ B` has a binary logarithm of at most `B`. -/
theorem log2_le {B : Nat} (hnum : 0 < num) (hlt : num < den * 2 ^ B) :
    num.log2 ≤ den.log2 + B := by
  have hbound : num < 2 ^ (den.log2 + B + 1) := calc
    num < den * 2 ^ B := hlt
    _ ≤ 2 ^ (den.log2 + 1) * 2 ^ B := Nat.mul_le_mul_right _ (Nat.le_of_lt Nat.lt_log2_self)
    _ = 2 ^ (den.log2 + B + 1) := by rw [← Nat.pow_add, Nat.add_right_comm]
  exact Nat.le_of_lt_succ ((Nat.log2_lt (Nat.ne_of_gt hnum)).mpr hbound)

/-- The unit in which a quotient below `2 ^ B` has 53 bits. -/
theorem unit_le {B k : Nat} (hden : 0 < den) (hlt : num < den * 2 ^ B)
    (hbig : ¬ num * 2 ^ k / den < 2 ^ 53) : 53 < B + k := by
  have hle : 2 ^ 53 * den ≤ num * 2 ^ k := (Nat.le_div_iff_mul_le hden).mp (Nat.le_of_not_lt hbig)
  have hpow : 2 ^ 53 * den < 2 ^ (B + k) * den := calc
    2 ^ 53 * den ≤ num * 2 ^ k := hle
    _ < den * 2 ^ B * 2 ^ k := Nat.mul_lt_mul_of_pos_right hlt (Nat.two_pow_pos k)
    _ = 2 ^ (B + k) * den := by rw [Nat.mul_assoc, ← Nat.pow_add, Nat.mul_comm]
  exact (Nat.pow_lt_pow_iff_right (by decide)).mp (Nat.lt_of_mul_lt_mul_right hpow)

theorem ofRatio_zero (negative : Bool) (den : Nat) :
    ofRatio negative 0 den = .finite negative 0 (-(1074 : Nat)) := if_pos rfl

/-- Below `2 ^ B` the exponent is estimated from the logarithms, put right by one if 53 bits do not
do, and leaves room for 53 bits. -/
theorem exists_exponent {B : Nat} (hden : 0 < den) (hnum : num ≠ 0) (hlt : num < den * 2 ^ B)
    (hB : B ≤ 52) :
    ∃ k₀ k : Nat, 53 ≤ B + k ∧ max (-1074) ((num.log2 : Int) - den.log2 - 53) = -(k₀ : Int) ∧
      (if num * 2 ^ k₀ / den < Nat.pow 2 53 then -(k₀ : Int) else -(k₀ : Int) + 1) =
        -(k : Int) := by
  have hlog := log2_le (Nat.pos_of_ne_zero hnum) hlt
  obtain ⟨k₀, hk₀, hestimate⟩ : ∃ k₀ : Nat, 53 ≤ B + k₀ ∧
      max (-1074) ((num.log2 : Int) - den.log2 - 53) = -(k₀ : Int) :=
    ⟨(-(max (-1074) ((num.log2 : Int) - den.log2 - 53))).toNat, by omega, by omega⟩
  by_cases hsmall : num * 2 ^ k₀ / den < Nat.pow 2 53
  · exact ⟨k₀, k₀, hk₀, hestimate, if_pos hsmall⟩
  · have hunit := unit_le hden hlt hsmall
    refine ⟨k₀, k₀ - 1, by omega, hestimate, ?_⟩
    rw [if_neg hsmall]
    omega

/-- Below `2 ^ B` the value nearest to a quotient is a number of units of `2 ^ -k` for a `k` that
leaves room for 53 bits, and misses the quotient by half a unit at most. -/
theorem ofRatio_near {B : Nat} (hden : 0 < den)
    (hlt : num < den * 2 ^ B) (hB : B ≤ 52) :
    ∃ m k : Nat, ofRatio false num den = .finite false m (-(k : Int)) ∧ 52 ≤ B + k ∧
      2 * (m * den) ≤ 2 * (num * 2 ^ k) + den ∧ 2 * (num * 2 ^ k) ≤ 2 * (m * den) + den := by
  by_cases hzero : num = 0
  · subst hzero
    refine ⟨0, 1074, ofRatio_zero false den, by omega, ?_, ?_⟩
    · rw [Nat.zero_mul]
      exact Nat.zero_le _
    · rw [Nat.zero_mul]
      exact Nat.zero_le _
  obtain ⟨k₀, k, hk, hestimate, hexponent⟩ := exists_exponent hden hzero hlt hB
  have hround := roundDiv_near (num * 2 ^ k) hden
  simp only [ofRatio, if_neg hzero, hestimate, inUnits_neg, hexponent]
  by_cases hcarry : roundDiv (num * 2 ^ k) den = Nat.pow 2 53
  · obtain ⟨k', rfl⟩ := Nat.exists_eq_add_of_le' (show 1 ≤ k by omega)
    have hunits : 2 ^ (k' + 1) = 2 * 2 ^ k' := Nat.pow_succ'
    have hcarried : Nat.pow 2 53 = 2 * Nat.pow 2 52 := rfl
    rw [hcarry, hcarried, hunits, Nat.mul_assoc 2, Nat.mul_left_comm num] at hround
    refine ⟨Nat.pow 2 52, k', ?_, by omega, by omega, by omega⟩
    have hup : -((k' + 1 : Nat) : Int) + 1 = -(k' : Int) := by omega
    rw [if_pos hcarry]
    dsimp only
    rw [hup]
    exact if_neg (by omega)
  · refine ⟨roundDiv (num * 2 ^ k) den, k, ?_, by omega, hround⟩
    rw [if_neg hcarry]
    exact if_neg (by omega)

theorem ratio_neg (m k : Nat) : ratio m (-(k : Int)) = (m, 2 ^ k) := by
  have hup : (-(k : Int)).toNat = 0 := by omega
  have hdown : (- -(k : Int)).toNat = k := by omega
  rw [ratio, hup, hdown]
  exact congrArg (·, 2 ^ k) (Nat.mul_one m)

end Binary64

namespace Instant

open Binary64

/-! ## From the clock to an instant -/

/-- A fraction of a second that misses a number of microseconds by less than a half of one, even
after it was rounded twice. -/
theorem fraction_near {n d f : Nat} (hd : 2 ^ 20 ≤ d) (hn : n < d)
    (hlow : 2 * (n * 1000000) ≤ 2 * (f * d) + 1000000)
    (hhigh : 2 * (f * d) ≤ 2 * (n * 1000000) + 1000000) :
    ∃ m k : Nat, ofRatio false (n * 1000000) d = .finite false m (-(k : Int)) ∧
      roundDiv m (2 ^ k) = f := by
  have hlt : n * 1000000 < d * 2 ^ 20 := by omega
  obtain ⟨m, k, hvalue, hk, hm, hm'⟩ := ofRatio_near (Nat.zero_lt_of_lt hn) hlt (by decide)
  refine ⟨m, k, hvalue, ?_⟩
  have hbits : 2 ^ 32 ≤ 2 ^ k := Nat.pow_le_pow_right (by decide) (by omega)
  generalize 2 ^ k = e at hbits hm hm' ⊢
  -- the two errors together stay below a half, measured in units of `1 / (d * e)`
  have hhalf : 1000000 * e + d < d * e := by
    have hleft := Nat.mul_le_mul_right e hd
    have hright := Nat.mul_le_mul_left d hbits
    omega
  have hlow' := Nat.mul_le_mul_right e hlow
  have hhigh' := Nat.mul_le_mul_right e hhigh
  rw [Nat.add_mul, Nat.mul_assoc 2, Nat.mul_assoc 2] at hlow' hhigh'
  rw [Nat.mul_comm d e] at hhalf
  apply roundDiv_eq
  · refine Nat.lt_of_mul_lt_mul_right (a := d) ?_
    rw [Nat.add_mul, Nat.mul_assoc 2, Nat.mul_assoc 2, Nat.mul_right_comm f e d]
    omega
  · refine Nat.lt_of_mul_lt_mul_right (a := d) ?_
    rw [Nat.add_mul, Nat.mul_assoc 2, Nat.mul_assoc 2, Nat.mul_right_comm f e d]
    omega

theorem ofSeconds_finite {m m' : Nat} {e e' : Int} {n d p q : Nat} (h : ratio m e = (n, d))
    (hvalue : ofRatio false (n % d * 1000000) d = .finite false m' e') (h' : ratio m' e' = (p, q)) :
    ofSeconds (.finite false m e) = some ⟨(n / d * 1000000 + roundDiv p q : Nat)⟩ := by
  rw [ofSeconds, h]
  -- the check of the proof would count the million one by one
  generalize 1000000 = million at hvalue ⊢
  simp only [hvalue, h', Bool.false_eq_true, if_false]

/-- Below `2 ^ 32` seconds the clock hands out the microseconds that it means. -/
theorem ofSeconds_ofRatio {u : Nat} (h : u < 2 ^ 32 * 1000000) :
    ofSeconds (ofRatio false u 1000000) = some ⟨u⟩ := by
  have hlt : u < 1000000 * 2 ^ 32 := by omega
  obtain ⟨m, k, hvalue, hk, hlow, hhigh⟩ := ofRatio_near (by decide : 0 < 1000000) hlt (by decide)
  have hratio := ratio_neg m k
  have hd : 2 ^ 20 ≤ 2 ^ k := Nat.pow_le_pow_right (by decide) (by omega)
  generalize 2 ^ k = d at hratio hd hlow hhigh
  have hparts := Nat.div_add_mod m d
  have hrest := Nat.mod_lt m (show 0 < d by omega)
  have hseconds : m / d * 1000000 * d = d * (m / d) * 1000000 := by
    rw [Nat.mul_right_comm, Nat.mul_comm (m / d)]
  have hwhole : m / d * 1000000 ≤ u := by
    by_contra hless
    have hmore := Nat.mul_le_mul_right d (Nat.lt_of_not_le hless)
    rw [Nat.succ_mul, hseconds] at hmore
    omega
  obtain ⟨f, hf⟩ := Nat.exists_eq_add_of_le hwhole
  have hproduct : u * d = d * (m / d) * 1000000 + f * d := by
    rw [← hseconds, ← Nat.add_mul, ← hf]
  have hbelow : 2 * (m % d * 1000000) ≤ 2 * (f * d) + 1000000 := by linarith
  have habove : 2 * (f * d) ≤ 2 * (m % d * 1000000) + 1000000 := by linarith
  obtain ⟨m', k', hvalue', hround⟩ := fraction_near hd hrest hbelow habove
  rw [hvalue, ofSeconds_finite hratio hvalue' (ratio_neg m' k'), hround, ← hf]

theorem seconds_ofNat (u : Nat) : (Instant.mk u).seconds = (u / 1000000 : Nat) := rfl

theorem date_ofNat (u : Nat) : (Instant.mk u).date = Date.ofDays (u / 1000000 / 86400 : Nat) := rfl

/-- The instants below `2 ^ 32` seconds lie in the years from 1970 to 2106. -/
theorem year_bounds {u : Nat} (h : u < 2 ^ 32 * 1000000) :
    1970 ≤ (Instant.mk u).date.year ∧ (Instant.mk u).date.year ≤ 2106 := by
  have hlow := Date.year_ofDays (u / 1000000 / 86400)
  have hhigh := Date.year_ofDays_le (u / 1000000 / 86400)
  rw [date_ofNat]
  omega

theorem ofClock?_ok {u : Nat} (h : u < 2 ^ 32 * 1000000) : ofClock? u = .ok ⟨u⟩ := by
  have hsign : decide ((u : Int) < 0) = false := decide_eq_false (by omega)
  have hclock : ¬ ((Instant.mk u).seconds < -(Nat.pow 2 63 : Int) ||
      (Nat.pow 2 63 : Int) ≤ (Instant.mk u).seconds) = true := by
    have hpow : (Nat.pow 2 63 : Int) = 9223372036854775808 := rfl
    rw [seconds_ofNat, hpow, Bool.or_eq_true, decide_eq_true_eq, decide_eq_true_eq]
    omega
  obtain ⟨hlow, hhigh⟩ := year_bounds h
  have hcalendar : calendarYears (Instant.mk u).date.year = true := by
    rw [calendarYears, Bool.and_eq_true, decide_eq_true_eq, decide_eq_true_eq]
    omega
  have hyear : ¬ ((Instant.mk u).date.year < 1 || 9999 < (Instant.mk u).date.year) = true := by
    rw [Bool.or_eq_true, decide_eq_true_eq, decide_eq_true_eq]
    omega
  rw [ofClock?, hsign, Int.natAbs_natCast, ofSeconds_ofRatio h]
  simp only [if_neg hclock, hcalendar, if_neg hyear]
  rfl

end Instant

end StepUp
