import Mathlib.Tactic.SplitIfs
import StepUp.Proofs.Json.Spelling

/-!
# Written texts are read back

A text is written with its code points escaped one by one, and read escape by escape. Reading an
escape gives its code point (`Json.scanString_escapeCodePoint`), so a text without surrogates is
read as it was (`Json.scanString_escaped`). Surrogates are left out for a reason: two that stand
side by side in a text are written like one code point beyond the first plane, and read as that.
-/

namespace StepUp.Json

/-! ## Escapes by number -/

theorem hexUnit?_hexDigit {n : Nat} (h : n < 0x10000) :
    hexUnit? (Text.hexDigit (n / 4096)) (Text.hexDigit (n / 256 % 16))
      (Text.hexDigit (n / 16 % 16)) (Text.hexDigit (n % 16)) = some n := by
  simp only [hexUnit?, Text.hexValue?_hexDigit (show n / 4096 < 16 by omega),
    Text.hexValue?_hexDigit (Nat.mod_lt _ (show 16 > 0 by decide)), Option.bind_eq_bind,
    Option.bind_some, Option.pure_def, Option.some.injEq]
  omega

theorem escapeUnit?_hex {n : Nat} (h : n < 0x10000) {t : Text} (ht : t ≠ []) :
    escapeUnit? (Text.hex 4 n ++ t) = some n := by
  obtain ⟨c, rest, rfl⟩ := List.exists_cons_of_ne_nil ht
  rw [Text.hex_four h]
  exact hexUnit?_hexDigit h

theorem drop_hex {n : Nat} (h : n < 0x10000) (t : Text) : (Text.hex 4 n ++ t).drop 4 = t := by
  rw [Text.hex_four h]
  rfl

theorem scanUnicodeEscape_hex {n : Nat} (h : n < 0x10000) (hhigh : isHighSurrogate n = false)
    {t : Text} (ht : t ≠ []) (start : Text) :
    scanUnicodeEscape start (Text.hex 4 n ++ t) = .ok (.ofNat n, 4) := by
  rw [scanUnicodeEscape, escapeUnit?_hex h ht, drop_hex h]
  simp only [hhigh, Bool.false_and]
  split <;> rfl

theorem lt_of_isHighSurrogate {n : Nat} (h : isHighSurrogate n = true) : n < 0x10000 := by
  simp only [isHighSurrogate, Bool.and_eq_true, decide_eq_true_eq] at h
  omega

theorem lt_of_isLowSurrogate {n : Nat} (h : isLowSurrogate n = true) : n < 0x10000 := by
  simp only [isLowSurrogate, Bool.and_eq_true, decide_eq_true_eq] at h
  omega

/-- The two surrogates of a code point beyond the first plane make it up again. -/
theorem eq_joinSurrogates {n : Nat} (h : 0x10000 ≤ n) :
    n = joinSurrogates (0xD800 + (n - 0x10000) / 0x400) (0xDC00 + (n - 0x10000) % 0x400) := by
  unfold joinSurrogates
  omega

theorem scanUnicodeEscape_pair {high low : Nat} (hhigh : isHighSurrogate high = true)
    (hlow : isLowSurrogate low = true) {t : Text} (ht : t ≠ []) (start : Text) :
    scanUnicodeEscape start (Text.hex 4 high ++ (escapeUnit low ++ t)) =
      .ok (.ofNat (joinSurrogates high low), 10) := by
  have hhigh' := lt_of_isHighSurrogate hhigh
  have hlow' := lt_of_isLowSurrogate hlow
  have hunit : escapeUnit low ++ t =
      CodePoint.ofChar '\\' :: CodePoint.ofChar 'u' :: (Text.hex 4 low ++ t) := rfl
  have hlength : 5 ≤ List.length (Text.hex 4 low ++ t) := by
    have := List.length_pos_iff.mpr ht
    rw [List.length_append, Text.hex_four hlow']
    exact Nat.add_le_add_left this 4
  rw [scanUnicodeEscape, hunit, escapeUnit?_hex hhigh' (List.cons_ne_nil _ _), drop_hex hhigh']
  simp only [hhigh, decide_eq_true hlength, decide_true, Bool.and_true, if_true,
    escapeUnit?_hex hlow' ht, hlow]

/-! ## One step of the reader -/

section Steps

variable {start : Nat} {t body after : Text}

theorem scanString_plain {c : CodePoint} (hquote : c ≠ CodePoint.ofChar '"')
    (hbackslash : c ≠ CodePoint.ofChar '\\') (hcontrol : 0x20 ≤ c.val)
    (h : scanString start t = .ok (body, after)) :
    scanString start (c :: t) = .ok (c :: body, after) := by
  rw [scanString.eq_def]
  simp only [if_neg hquote, if_pos hbackslash, if_neg (Nat.not_lt.mpr hcontrol), h]
  rfl

theorem scanString_simple {e d : CodePoint} (hu : e ≠ CodePoint.ofChar 'u')
    (he : simpleEscape? e = some d) (h : scanString start t = .ok (body, after)) :
    scanString start (CodePoint.ofChar '\\' :: e :: t) = .ok (d :: body, after) := by
  rw [scanString, if_neg (by decide), if_neg (by decide)]
  simp only [if_neg hu, he, h]
  rfl

theorem scanString_unicode {d : CodePoint} {count : Nat}
    (he : scanUnicodeEscape (CodePoint.ofChar 'u' :: t) t = .ok (d, count))
    (h : scanString start (t.drop count) = .ok (body, after)) :
    scanString start (CodePoint.ofChar '\\' :: CodePoint.ofChar 'u' :: t) =
      .ok (d :: body, after) := by
  rw [scanString, if_neg (by decide), if_neg (by decide)]
  simp only [if_true, he, bind, Except.bind, h]
  rfl

theorem ne_nil_of_scanString (h : scanString start t = .ok (body, after)) : t ≠ [] := by
  rintro rfl
  rw [scanString] at h
  cases h

theorem scanString_unit {c : CodePoint} (hc : c.isSurrogate = false) (hplane : c.val < 0x10000)
    (h : scanString start t = .ok (body, after)) :
    scanString start (escapeUnit c.val ++ t) = .ok (c :: body, after) := by
  have hhigh : isHighSurrogate c.val = false := by
    simp only [CodePoint.isSurrogate, isHighSurrogate, Bool.and_eq_false_iff,
      decide_eq_false_iff_not] at hc ⊢
    omega
  have hscan := scanUnicodeEscape_hex hplane hhigh (ne_nil_of_scanString h)
    (CodePoint.ofChar 'u' :: (Text.hex 4 c.val ++ t))
  rw [CodePoint.ofNat_eq rfl] at hscan
  exact scanString_unicode hscan ((drop_hex hplane t).symm ▸ h)

theorem scanString_pair {c : CodePoint} {high low : Nat} (hhigh : isHighSurrogate high = true)
    (hlow : isLowSurrogate low = true) (hjoin : c.val = joinSurrogates high low)
    (h : scanString start t = .ok (body, after)) :
    scanString start (escapeUnit high ++ escapeUnit low ++ t) = .ok (c :: body, after) := by
  have ht := ne_nil_of_scanString h
  have hscan := scanUnicodeEscape_pair hhigh hlow ht
    (CodePoint.ofChar 'u' :: (Text.hex 4 high ++ (escapeUnit low ++ t)))
  rw [CodePoint.ofNat_eq hjoin] at hscan
  have hdrop : (Text.hex 4 high ++ (escapeUnit low ++ t)).drop 10 = t := by
    rw [Text.hex_four (lt_of_isHighSurrogate hhigh), escapeUnit,
      Text.hex_four (lt_of_isLowSurrogate hlow)]
    rfl
  rw [List.append_assoc]
  exact scanString_unicode hscan (hdrop.symm ▸ h)

/-- A code point is read from its escape. -/
theorem scanString_escapeCodePoint {c : CodePoint} (hc : c.isSurrogate = false)
    (h : scanString start t = .ok (body, after)) :
    scanString start (escapeCodePoint c ++ t) = .ok (c :: body, after) := by
  have hlt := c.isLt
  unfold escapeCodePoint
  split_ifs with hquote hbackslash hline hreturn htab hback hfeed hplain hplane
  · exact hquote ▸ scanString_simple (by decide) (by decide) h
  · exact hbackslash ▸ scanString_simple (by decide) (by decide) h
  · exact hline ▸ scanString_simple (by decide) (by decide) h
  · exact hreturn ▸ scanString_simple (by decide) (by decide) h
  · exact htab ▸ scanString_simple (by decide) (by decide) h
  · exact CodePoint.ofNat_eq hback ▸ scanString_simple (by decide) (by decide) h
  · exact CodePoint.ofNat_eq hfeed ▸ scanString_simple (by decide) (by decide) h
  · simp only [Bool.and_eq_true, decide_eq_true_eq] at hplain
    exact scanString_plain hquote hbackslash hplain.1 h
  · exact scanString_unit hc hplane h
  · refine scanString_pair ?_ ?_ (eq_joinSurrogates (Nat.le_of_not_lt hplane)) h
    · simp only [isHighSurrogate, Bool.and_eq_true, decide_eq_true_eq]
      omega
    · simp only [isLowSurrogate, Bool.and_eq_true, decide_eq_true_eq]
      omega

end Steps

/-- The body of a written text is read up to the closing quote. -/
theorem scanString_escaped {t : Text} (ht : t.Unicode) (start : Nat) (rest : Text) :
    scanString start (t.flatMap escapeCodePoint ++ CodePoint.ofChar '"' :: rest) =
      .ok (t, rest) := by
  induction t with
  | nil =>
    rw [List.flatMap_nil, List.nil_append, scanString.eq_def]
    rfl
  | cons c t ih =>
    obtain ⟨hc, ht⟩ := List.forall_mem_cons.mp ht
    rw [List.flatMap_cons, List.append_assoc]
    exact scanString_escapeCodePoint hc (ih ht)

end StepUp.Json
