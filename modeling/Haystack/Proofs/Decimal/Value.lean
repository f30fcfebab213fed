import Haystack.Decimal.Basic
import Haystack.Proofs.Binary.Ceiling
import Mathlib.Algebra.Order.Field.Rat
import Mathlib.Algebra.Order.Field.Basic
import Mathlib.Tactic.FieldSimp
import Mathlib.Tactic.Linarith
import Mathlib.Tactic.Ring

/-!
# Exact values of decimals

A decimal is read as a floating-point number by one rounded division, but only after a look at its
order, and the same number can be written as many decimals. This file gives decimals their exact values
in the rationals (`Decimal.toRat`) and shows that reading depends on nothing else:

* `code_eq_of_toRat_eq` — decimals of one value read as one magnitude.
* `code_eq_of_between` — a decimal reads as the magnitude whose neighbours are farther away than twice
  its distance: it lies strictly between the points halfway to the two neighbours.

The order of a decimal is decided by its value (`order_unique`), so that looking at it first makes no
difference. For the second statement the order is shown to be one at which the division takes place.
-/

namespace Haystack

/-! ### How many digits a number has -/

namespace Digit

/-- Zero has no digits. -/
theorem count_zero : count 0 = 0 := by
  rw [count, ofNat]
  rfl

/-- A number has one digit more than its tenth. -/
theorem count_of_pos {n : Nat} (h : n ≠ 0) : count n = count (n / 10) + 1 := by
  rw [count, ofNat, if_neg h, List.length_append]
  rfl

/-- A number is below the power of ten with as many zeros as it has digits. -/
theorem lt_pow_count (n : Nat) : n < 10 ^ count n := by
  -- induction on the tenth of the number, as the digits are written
  induction n using Nat.strong_induction_on with
  | _ n ih =>
    by_cases h : n = 0
    · subst h
      simp [count_zero]
    · have hdiv := ih (n / 10) (by omega)
      rw [count_of_pos h, Nat.pow_succ]
      omega

/-- A number with more than `k` digits is at least `10 ^ k`. -/
theorem pow_lt_of_lt_count {n k : Nat} (h : k < count n) : 10 ^ k ≤ n := by
  induction k generalizing n with
  | zero =>
    rw [Nat.pow_zero, Nat.one_le_iff_ne_zero]
    rintro rfl
    rw [count_zero] at h
    exact absurd h (Nat.lt_irrefl 0)
  | succ k ih =>
    have hn : n ≠ 0 := by
      rintro rfl
      rw [count_zero] at h
      exact absurd h (Nat.not_lt_zero _)
    rw [count_of_pos hn] at h
    have hdiv := ih (Nat.lt_of_succ_lt_succ h)
    rw [Nat.pow_succ]
    omega

/-- **A number has at most `k` digits if it is below `10 ^ k`.** -/
theorem count_le_iff {n k : Nat} : count n ≤ k ↔ n < 10 ^ k := by
  constructor
  · intro h
    exact lt_of_lt_of_le (lt_pow_count n) (Nat.pow_le_pow_right (by decide) h)
  · intro h
    by_contra hlt
    exact absurd (pow_lt_of_lt_count (Nat.not_le.1 hlt)) (Nat.not_le.2 h)

end Digit

/-! ### Values -/

namespace Decimal

/-- **The value of a decimal.** -/
def toRat (d : Decimal) : ℚ :=
  d.coefficient * 10 ^ d.exponent

/-- Powers of ten are positive. -/
theorem ten_zpow_pos (e : Int) : (0 : ℚ) < 10 ^ e := zpow_pos (by norm_num) e

/-- A decimal is zero if its coefficient is. -/
theorem toRat_eq_zero_iff {d : Decimal} : d.toRat = 0 ↔ d.coefficient = 0 := by
  rw [toRat, mul_eq_zero, or_iff_left (ten_zpow_pos _).ne', Nat.cast_eq_zero]

/-- The value as a quotient of natural numbers, one of whose powers of ten is `1`. -/
theorem toRat_eq_div (d : Decimal) :
    d.toRat = (d.coefficient * 10 ^ d.exponent.toNat : ℕ) / (10 ^ (-d.exponent).toNat : ℕ) := by
  -- one of the two natural numbers in this difference is zero
  have hexp : d.exponent = d.exponent.toNat - ((-d.exponent).toNat : ℤ) := by omega
  rw [toRat, hexp, zpow_sub₀ (by norm_num), zpow_natCast, zpow_natCast, ← hexp]
  push_cast
  ring

/-- **A decimal lies in the decade that its order names.** -/
theorem toRat_lt_pow_order (d : Decimal) : d.toRat < 10 ^ d.order := by
  rw [toRat, order, zpow_add₀ (by norm_num), zpow_natCast]
  refine mul_lt_mul_of_pos_right ?_ (ten_zpow_pos _)
  exact_mod_cast Digit.lt_pow_count d.coefficient

/-- A decimal that is not zero is not below its decade. -/
theorem pow_order_le_toRat {d : Decimal} (h : d.coefficient ≠ 0) :
    (10 : ℚ) ^ (d.order - 1) ≤ d.toRat := by
  obtain ⟨k, hk⟩ : ∃ k, Digit.count d.coefficient = k + 1 :=
    ⟨_, Digit.count_of_pos h⟩
  have horder : d.order - 1 = (k : ℤ) + d.exponent := by
    rw [order, hk]
    push_cast
    ring
  rw [toRat, horder, zpow_add₀ (by norm_num), zpow_natCast]
  refine mul_le_mul_of_nonneg_right ?_ (ten_zpow_pos _).le
  have hlt : k < Digit.count d.coefficient := hk.symm ▸ Nat.lt_succ_self k
  exact_mod_cast Digit.pow_lt_of_lt_count hlt

/-- Only one decade holds a number. -/
theorem decade_unique {q : ℚ} {i j : Int} (hi : (10 : ℚ) ^ (i - 1) ≤ q) (hi' : q < 10 ^ i)
    (hj : (10 : ℚ) ^ (j - 1) ≤ q) (hj' : q < 10 ^ j) : i = j := by
  have hij := (zpow_lt_zpow_iff_right₀ (by norm_num : (1 : ℚ) < 10)).1 (hi.trans_lt hj')
  have hji := (zpow_lt_zpow_iff_right₀ (by norm_num : (1 : ℚ) < 10)).1 (hj.trans_lt hi')
  omega

/-- **The order is decided by the value.** -/
theorem order_unique {d d' : Decimal} (h : d.toRat = d'.toRat) (hd : d.coefficient ≠ 0)
    (hd' : d'.coefficient ≠ 0) : d.order = d'.order :=
  decade_unique (pow_order_le_toRat hd) d.toRat_lt_pow_order (h ▸ pow_order_le_toRat hd')
    (h ▸ d'.toRat_lt_pow_order)

end Decimal

/-! ### Rounding looks at the quotient only -/

namespace Precision

variable {p : Precision} {c num den num' den' : Nat}

/-- A common factor of numerator and denominator makes no difference to the rounding. -/
theorem nearestCode_mul_right {k : Nat} (hk : 0 < k) :
    p.nearestCode (num * k) (den * k) = p.nearestCode num den := by
  have hquot : num * k / (den * k) = num / den := Nat.mul_div_mul_right _ _ hk
  simp only [nearestCode, hquot, ← Nat.mul_assoc, Nat.mul_lt_mul_right hk]

/-- **Equal quotients are rounded to one code.** -/
theorem nearestCode_congr (hden : 0 < den) (hden' : 0 < den')
    (h : (num : ℚ) / den = num' / den') : p.nearestCode num den = p.nearestCode num' den' := by
  -- both fractions are brought to the product of the denominators
  have hcross : num * den' = num' * den := by
    rw [div_eq_div_iff (by positivity) (by positivity)] at h
    exact_mod_cast h
  rw [← nearestCode_mul_right hden', hcross, Nat.mul_comm den, nearestCode_mul_right hden]

/-- **A quotient is rounded to the code that is nearer than both neighbours.** -/
theorem nearestCode_eq_of_between (hden : 0 < den)
    (hlow : c ≠ 0 → (p.units (c - 1) + p.units c) * den < 2 * num)
    (hhigh : 2 * num < (p.units c + p.units (c + 1)) * den) : p.nearestCode num den = c := by
  obtain ⟨hfloor, hceil⟩ := p.units_floorCode_div num hden
  -- a floor beyond `c` would put the quotient beyond the middle with the code after `c`
  have hle : p.floorCode (num / den) ≤ c := by
    by_contra hlt
    have hnext : p.units (c + 1) * den ≤ p.units (p.floorCode (num / den)) * den :=
      (units_mul_le_iff hden).2 (Nat.not_le.1 hlt)
    have hstep := Nat.mul_le_mul_right den (p.units_lt_succ c).le
    rw [Nat.add_mul] at hhigh
    omega
  rcases Nat.lt_or_eq_of_le hle with hlt | heq
  · -- the floor is the code before, and the quotient is beyond the middle
    have hpred : p.floorCode (num / den) + 1 = c := by
      by_contra hne
      have hprev : p.units (p.floorCode (num / den) + 1) * den ≤ p.units (c - 1) * den :=
        (units_mul_le_iff hden).2 (by omega)
      have hstep : p.units (c - 1) * den ≤ p.units c * den :=
        (units_mul_le_iff hden).2 (Nat.sub_le c 1)
      have hmiddle := hlow (by omega)
      rw [Nat.add_mul] at hmiddle
      omega
    have hmiddle := hlow (by omega)
    rw [← hpred, Nat.add_sub_cancel] at hmiddle
    rw [← hpred]
    simp only [nearestCode, Nat.not_lt.2 hmiddle.le, hmiddle, if_false, if_true]
  · -- the floor is `c`, and the quotient is before the middle
    rw [← heq] at hhigh
    simp only [nearestCode, hhigh, if_true]
    exact heq

end Precision

/-! ### Reading looks at the value only -/

namespace Decimal

variable {p : Precision} {d d' : Decimal}

/-- The quotient that reading rounds is the value in units. -/
theorem toRat_mul_depth_eq_div (p : Precision) (d : Decimal) :
    d.toRat * 2 ^ p.depth = (d.coefficient * 10 ^ d.exponent.toNat * 2 ^ p.depth : ℕ)
      / (10 ^ (-d.exponent).toNat : ℕ) := by
  rw [toRat_eq_div]
  push_cast
  ring

/-- **Decimals of one value read as one magnitude.** -/
theorem code_eq_of_toRat_eq (p : Precision) (h : d.toRat = d'.toRat) : d.code p = d'.code p := by
  by_cases hd : d.coefficient = 0
  · have hd' : d'.coefficient = 0 := by
      rw [← toRat_eq_zero_iff, ← h, toRat_eq_zero_iff]
      exact hd
    rw [code, code, if_pos hd, if_pos hd']
  · have hd' : d'.coefficient ≠ 0 := by
      rw [ne_eq, ← toRat_eq_zero_iff, ← h, toRat_eq_zero_iff]
      exact hd
    -- neither is zero, so both are of one order, and the quotients that are rounded are equal
    have hround : p.nearestCode (d.coefficient * 10 ^ d.exponent.toNat * 2 ^ p.depth)
          (10 ^ (-d.exponent).toNat)
        = p.nearestCode (d'.coefficient * 10 ^ d'.exponent.toNat * 2 ^ p.depth)
          (10 ^ (-d'.exponent).toNat) := by
      refine Precision.nearestCode_congr (by positivity) (by positivity) ?_
      rw [← toRat_mul_depth_eq_div, ← toRat_mul_depth_eq_div, h]
    rw [code, code, if_neg hd, if_neg hd', order_unique h hd hd', hround]

/-- The magnitude that infinity would have, as a number. -/
theorem units_infinityCode_eq (p : Precision) :
    (p.units p.infinityCode : ℚ) = 2 ^ 2 ^ (p.exponentBits - 1) * 2 ^ p.depth := by
  have hexp : p.fractionBits + (2 ^ p.exponentBits - 2) = 2 ^ (p.exponentBits - 1) + p.depth := by
    cases p <;> decide
  rw [Precision.units_infinityCode, hexp, ← pow_add]
  push_cast
  rfl

/-- A decimal that is below the magnitude of infinity is not of too large an order. -/
theorem order_le_of_lt (hd : d.coefficient ≠ 0)
    (h : d.toRat * 2 ^ p.depth < p.units p.infinityCode) :
    d.order ≤ 2 ^ (p.exponentBits - 1) := by
  by_contra hlt
  rw [units_infinityCode_eq] at h
  have hvalue : d.toRat < 2 ^ 2 ^ (p.exponentBits - 1) := lt_of_mul_lt_mul_right h (by positivity)
  -- a larger order puts the decimal in a decade beyond a power of ten that is greater still
  have hdecade : (10 : ℚ) ^ ((2 ^ (p.exponentBits - 1) : ℕ) : ℤ) ≤ 10 ^ (d.order - 1) :=
    zpow_le_zpow_right₀ (by norm_num) (by push_cast; omega)
  rw [zpow_natCast] at hdecade
  have hbase : (2 : ℚ) ^ 2 ^ (p.exponentBits - 1) ≤ 10 ^ 2 ^ (p.exponentBits - 1) :=
    pow_le_pow_left₀ (by norm_num) (by norm_num) _
  exact absurd (hbase.trans (hdecade.trans (pow_order_le_toRat hd))) (not_le.2 hvalue)

/-- A decimal that is beyond half the least magnitude is not of too small an order. -/
theorem le_order_of_lt (h : 1 < 2 * (d.toRat * 2 ^ p.depth)) : -(p.depth : Int) ≤ d.order := by
  by_contra hlt
  -- a smaller order puts the decimal in a decade below a power of ten with exponent `-(depth + 1)`
  have hdecade : (10 : ℚ) ^ d.order ≤ 10 ^ (-((p.depth + 1 : ℕ) : ℤ)) :=
    zpow_le_zpow_right₀ (by norm_num) (by push_cast; omega)
  rw [zpow_neg, zpow_natCast] at hdecade
  have hvalue : d.toRat ≤ ((10 : ℚ) ^ (p.depth + 1))⁻¹ := d.toRat_lt_pow_order.le.trans hdecade
  have hbase : (2 : ℚ) ^ (p.depth + 1) ≤ 10 ^ (p.depth + 1) :=
    pow_le_pow_left₀ (by norm_num) (by norm_num) _
  have hsmall : 2 * (d.toRat * 2 ^ p.depth) ≤ 1 := by
    calc 2 * (d.toRat * 2 ^ p.depth) = d.toRat * 2 ^ (p.depth + 1) := by ring
      _ ≤ ((10 : ℚ) ^ (p.depth + 1))⁻¹ * 10 ^ (p.depth + 1) := by gcongr
      _ = 1 := inv_mul_cancel₀ (by positivity)
  exact absurd hsmall (not_le.2 h)

/-- **A decimal reads as the magnitude that is nearer than both neighbours.** -/
theorem code_eq_of_between {c : Nat} (hc0 : c ≠ 0) (hc : c < p.infinityCode)
    (hlow : (p.units (c - 1) + p.units c : ℚ) < 2 * (d.toRat * 2 ^ p.depth))
    (hhigh : 2 * (d.toRat * 2 ^ p.depth) < p.units c + p.units (c + 1)) : d.code p = c := by
  -- the decimal is neither below half a unit nor beyond the finite magnitudes
  have hunit : (1 : ℚ) ≤ p.units c := by
    exact_mod_cast Nat.succ_le_of_lt (Precision.units_pos (p := p) hc0)
  have hprev : (0 : ℚ) ≤ p.units (c - 1) := Nat.cast_nonneg _
  have htop : (p.units (c + 1) : ℚ) ≤ p.units p.infinityCode := by
    exact_mod_cast Precision.units_le_units_iff.2 (Nat.succ_le_of_lt hc)
  have hstep : (p.units c : ℚ) ≤ p.units (c + 1) := by
    exact_mod_cast (p.units_lt_succ c).le
  have hd : d.coefficient ≠ 0 := by
    intro h0
    rw [toRat_eq_zero_iff.2 h0] at hlow
    linarith
  have hlarge : ¬2 ^ (p.exponentBits - 1) < d.order :=
    not_lt.2 (order_le_of_lt hd (by linarith))
  have hsmall : ¬d.order < -(p.depth : Int) := not_lt.2 (le_order_of_lt (by linarith))
  -- what is left is the rounded quotient
  rw [toRat_mul_depth_eq_div] at hlow hhigh
  have hden : (0 : ℚ) < (10 ^ (-d.exponent).toNat : ℕ) := by positivity
  -- the denominator is multiplied out, so that the bounds speak of natural numbers
  rw [mul_div_assoc', lt_div_iff₀ hden] at hlow
  rw [mul_div_assoc', div_lt_iff₀ hden] at hhigh
  have hround := Precision.nearestCode_eq_of_between (p := p) (c := c)
    (Nat.pow_pos (by decide) : 0 < 10 ^ (-d.exponent).toNat) (fun _ => by exact_mod_cast hlow)
    (by exact_mod_cast hhigh)
  rw [code, if_neg hd, if_neg (by exact_mod_cast hlarge), if_neg hsmall, hround]
  exact Nat.min_eq_left hc.le

/-- **A decimal does not read as more than a finite magnitude** that it does not exceed. -/
theorem code_le {c : Nat} (hc : c < p.infinityCode) (h : d.toRat * 2 ^ p.depth ≤ p.units c) :
    d.code p ≤ c := by
  by_cases hd : d.coefficient = 0
  · rw [code, if_pos hd]
    exact Nat.zero_le c
  · have htop : (p.units c : ℚ) < p.units p.infinityCode := by
      exact_mod_cast Precision.units_lt_units hc
    have hlarge : ¬2 ^ (p.exponentBits - 1) < d.order :=
      not_lt.2 (order_le_of_lt hd (h.trans_lt htop))
    rw [code, if_neg hd, if_neg (by exact_mod_cast hlarge)]
    split
    · exact Nat.zero_le c
    · -- the division takes place, and its quotient is the value in units
      have hden : (0 : ℚ) < (10 ^ (-d.exponent).toNat : ℕ) := by positivity
      rw [toRat_mul_depth_eq_div, div_le_iff₀ hden] at h
      apply (Nat.min_le_left _ _).trans
      apply Precision.nearestCode_le (Nat.pow_pos (by decide))
      exact_mod_cast h

/-- **A decimal up to a power of two below the magnitude of infinity reads as a finite number.** -/
theorem code_lt_infinityCode {k : Nat} (hk : k < 2 ^ (p.exponentBits - 1)) (h : d.toRat ≤ 2 ^ k) :
    d.code p < p.infinityCode := by
  -- the power of two is a magnitude itself
  obtain ⟨c, hc⟩ := p.exists_units_eq (m := 1) (by have := p.fraction_pos; omega) (k + p.depth)
  rw [Nat.one_mul, Nat.pow_add] at hc
  have hfinite : c < p.infinityCode := by
    -- it is finite since its exponent is below that of infinity
    rw [← Precision.units_lt_units_iff, ← Nat.cast_lt (α := ℚ), units_infinityCode_eq, hc]
    push_cast
    gcongr
    norm_num
  refine lt_of_le_of_lt (code_le hfinite ?_) hfinite
  rw [hc]
  push_cast
  gcongr

/-! ### Zeros at the end -/

/-- Dropping zeros changes the exponent, not the value. -/
theorem toRat_trim (d : Decimal) : d.trim.toRat = d.toRat := by
  -- the induction follows the zeros as they are dropped
  fun_induction trim d with
  | case1 d h ih =>
    rw [ih, toRat, toRat, zpow_add₀ (by norm_num)]
    -- the zero that is dropped
    have hten : d.coefficient = d.coefficient / 10 * 10 := by omega
    have hcast : (d.coefficient : ℚ) = (d.coefficient / 10 : ℕ) * 10 := by exact_mod_cast hten
    rw [hcast]
    ring
  | case2 d h => rfl

/-- Dropping zeros does not make the coefficient greater. -/
theorem coefficient_trim_le (d : Decimal) : d.trim.coefficient ≤ d.coefficient := by
  fun_induction trim d with
  | case1 d h ih => exact ih.trans (Nat.div_le_self _ _)
  | case2 d h => exact le_rfl

end Decimal

end Haystack
