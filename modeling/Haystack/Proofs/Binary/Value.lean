import Haystack.Binary.Arithmetic
import Mathlib.Data.EReal.Operations
import Mathlib.Tactic.NormNum
import Mathlib.Tactic.Positivity

/-!
# Exact values of floating-point numbers

Comparison and arithmetic of floating-point numbers are computed on codes and units. This file gives
the numbers their exact values in the extended reals and shows that the computations mean what they
should:

* `Binary.toEReal` is the value: a multiple of the unit for a finite number, an infinity of its sign
  for an infinite one. A NaN has no value; what the function gives for it means nothing.
* `toEReal_le_iff` — numbers are ordered as their values, so ranks compare values; `numLt_iff` and
  `numLe_iff` say the same of the comparisons.
* `toEReal_convert` — widening keeps the value, where every number of the narrow precision is one of
  the wide one; `single_fitsIn_double` says that this is so of 32 and 64 bits.

Magnitudes come first, as the sign is only put in front of them: `Precision.extent` is the value of a
code, and infinite from the code of infinity on.
-/

namespace Haystack

namespace Precision

variable {p q : Precision} {c d : Nat}

/-! ### Magnitudes -/

/-- The code zero is the magnitude zero. -/
@[simp] theorem units_zero (p : Precision) : p.units 0 = 0 := by
  rw [units]
  simp

/-- No other code is. -/
theorem units_pos (hc : c ≠ 0) : 0 < p.units c := by
  rw [← p.units_zero, units_lt_units_iff]
  exact Nat.pos_of_ne_zero hc

/-- Codes are ordered as the magnitudes are, here with equality allowed. -/
theorem units_le_units_iff : p.units c ≤ p.units d ↔ c ≤ d := by
  rw [← Nat.not_lt, units_lt_units_iff, Nat.not_lt]

/-- **The value of a magnitude code.** -/
noncomputable def extent (p : Precision) (c : Nat) : EReal :=
  if c < p.infinityCode then ((p.units c / 2 ^ p.depth : ℝ) : EReal) else ⊤

/-- Below the code of infinity the value is a number of units. -/
theorem extent_of_lt (h : c < p.infinityCode) :
    p.extent c = ((p.units c / 2 ^ p.depth : ℝ) : EReal) := if_pos h

/-- From the code of infinity on it is infinite, that of a NaN included. -/
theorem extent_of_le (h : p.infinityCode ≤ c) : p.extent c = ⊤ := if_neg (Nat.not_lt.2 h)

/-- Zero is finite in both precisions. -/
theorem infinityCode_pos (p : Precision) : 0 < p.infinityCode := by
  cases p <;> decide

/-- The value of the code zero is zero. -/
@[simp] theorem extent_zero (p : Precision) : p.extent 0 = 0 := by
  rw [extent_of_lt p.infinityCode_pos, units_zero, Nat.cast_zero, zero_div, EReal.coe_zero]

/-- Finite magnitudes of any two precisions compare as their units do, brought to one scale. -/
theorem extent_le_extent_iff_units (hc : c < p.infinityCode) (hd : d < q.infinityCode) :
    p.extent c ≤ q.extent d ↔ p.units c * 2 ^ q.depth ≤ q.units d * 2 ^ p.depth := by
  -- two quotients by powers of two, compared by multiplying crosswise
  rw [extent_of_lt hc, extent_of_lt hd, EReal.coe_le_coe_iff,
    div_le_div_iff₀ (by positivity) (by positivity)]
  exact_mod_cast Iff.rfl

/-- **Magnitudes of one precision are ordered as their codes.** -/
theorem extent_le_extent_iff (hc : c ≤ p.infinityCode) (hd : d ≤ p.infinityCode) :
    p.extent c ≤ p.extent d ↔ c ≤ d := by
  rcases Nat.lt_or_eq_of_le hd with hd | rfl
  · rcases Nat.lt_or_eq_of_le hc with hc | rfl
    · rw [extent_le_extent_iff_units hc hd,
        Nat.mul_le_mul_right_iff (Nat.two_pow_pos _), units_le_units_iff]
    · -- infinity is above every finite magnitude, and so is its code
      rw [extent_of_le le_rfl, extent_of_lt hd]
      refine iff_of_false ?_ (Nat.not_le.2 hd)
      exact not_le.2 (EReal.coe_lt_top _)
  · rw [extent_of_le (le_refl p.infinityCode)]
    exact iff_of_true le_top hc

/-- Magnitudes are not negative. -/
theorem extent_nonneg (p : Precision) (c : Nat) : 0 ≤ p.extent c := by
  rw [extent]
  split
  · rw [EReal.coe_nonneg]
    positivity
  · exact le_top

/-- Only the code zero has the value zero. -/
theorem extent_eq_zero_iff (hc : c ≤ p.infinityCode) : p.extent c = 0 ↔ c = 0 := by
  refine ⟨fun h => ?_, fun h => by rw [h, extent_zero]⟩
  rw [← Nat.le_zero, ← extent_le_extent_iff hc (Nat.zero_le _), extent_zero]
  exact h.le

/-- **The value of a code if exponents have no limit**: that of infinity is twice that of the largest
power of two. -/
noncomputable def unlimited (p : Precision) (c : Nat) : ℝ :=
  p.units c / 2 ^ p.depth

/-- Without a limit on exponents, magnitudes are not negative either. -/
theorem unlimited_nonneg (p : Precision) (c : Nat) : 0 ≤ p.unlimited c := by
  unfold unlimited
  positivity

/-- Nor does the missing limit change the value of the code zero. -/
@[simp] theorem unlimited_zero (p : Precision) : p.unlimited 0 = 0 := by
  rw [unlimited, units_zero, Nat.cast_zero, zero_div]

end Precision

namespace Binary

variable {p : Precision}

/-! ### Values -/

/-- The value of a finite number. -/
noncomputable def toReal (x : Binary p) : ℝ :=
  x.signedUnits / 2 ^ p.depth

/-- **The value of a number that is not a NaN.** -/
noncomputable def toEReal (x : Binary p) : EReal :=
  if x.isFinite then (x.toReal : EReal) else if x.negative then ⊥ else ⊤

/-- The code of a number is at most that of infinity. -/
theorem code_le_of_isNaN {x : Binary p} (h : x.isNaN = false) : x.code ≤ p.infinityCode :=
  Nat.not_lt.1 (of_decide_eq_false h)

/-- And whatever has such a code is a number. -/
theorem isNaN_of_code_le {x : Binary p} (h : x.code ≤ p.infinityCode) : x.isNaN = false :=
  decide_eq_false (Nat.not_lt.2 h)

/-- The value is the extent of the code with the sign in front of it. -/
theorem toEReal_eq (x : Binary p) :
    x.toEReal = if x.negative then -p.extent x.code else p.extent x.code := by
  rw [toEReal, isFinite]
  by_cases hfin : x.code < p.infinityCode
  · rw [Precision.extent_of_lt hfin, if_pos (decide_eq_true hfin), toReal, signedUnits]
    -- the sign of the units is the sign of the quotient
    cases x.negative
    · simp [magnitude]
    · simp [magnitude, neg_div]
  · rw [Precision.extent_of_le (Nat.not_lt.1 hfin), if_neg (by simpa using hfin)]
    cases x.negative <;> simp

/-- Without a sign the value is the extent. -/
theorem toEReal_of_positive {x : Binary p} (h : x.negative = false) :
    x.toEReal = p.extent x.code := by
  rw [toEReal_eq, h]
  rfl

/-- Without a sign the value is at least zero. -/
theorem toEReal_nonneg {x : Binary p} (h : x.negative = false) : 0 ≤ x.toEReal := by
  rw [toEReal_of_positive h]
  exact p.extent_nonneg _

/-- Both zeros have the value zero. -/
theorem toEReal_of_code_eq_zero {x : Binary p} (h : x.code = 0) : x.toEReal = 0 := by
  rw [toEReal_eq, h, Precision.extent_zero, neg_zero, ite_self]

/-- **Numbers are ordered as their values are.** -/
theorem toEReal_le_iff {x y : Binary p} (hx : x.isNaN = false) (hy : y.isNaN = false) :
    x.toEReal ≤ y.toEReal ↔ x.rank ≤ y.rank := by
  have hxc := code_le_of_isNaN hx
  have hyc := code_le_of_isNaN hy
  have hx0 := p.extent_nonneg x.code
  have hy0 := p.extent_nonneg y.code
  rw [toEReal_eq, toEReal_eq, rank, rank]
  -- a rank is a code with a sign, as a value is an extent with one: only the signs are split
  cases x.negative <;> cases y.negative
  · simp [Precision.extent_le_extent_iff hxc hyc]
  · -- only zeros of either sign are that close
    have hcodes : p.extent x.code ≤ -p.extent y.code ↔ x.code = 0 ∧ y.code = 0 := by
      rw [← Precision.extent_eq_zero_iff hxc, ← Precision.extent_eq_zero_iff hyc]
      constructor
      · intro h
        have hy' : -p.extent y.code ≤ 0 := EReal.neg_le_zero.2 hy0
        exact ⟨le_antisymm (h.trans hy') hx0, le_antisymm (EReal.neg_nonneg.1 (hx0.trans h)) hy0⟩
      · rintro ⟨h1, h2⟩
        rw [h1, h2, neg_zero]
    simp only [Bool.false_eq_true, if_false, if_true]
    rw [hcodes]
    omega
  · -- zero lies between a negative number and a positive one
    have hle : -p.extent x.code ≤ p.extent y.code := (EReal.neg_le_zero.2 hx0).trans hy0
    simp only [Bool.false_eq_true, if_false, if_true]
    refine iff_of_true hle ?_
    omega
  · -- two negative numbers: the order of the magnitudes is turned round on both sides
    simp [EReal.neg_le_neg_iff, Precision.extent_le_extent_iff hyc hxc]

/-- Numbers of one sign are told apart by their values, the zeros too. -/
theorem eq_of_toEReal_eq {x y : Binary p} (hx : x.isNaN = false) (hy : y.isNaN = false)
    (hs : x.negative = y.negative) (h : x.toEReal = y.toEReal) : x = y := by
  have hrank : x.rank = y.rank :=
    le_antisymm ((toEReal_le_iff hx hy).1 h.le) ((toEReal_le_iff hy hx).1 h.ge)
  -- with the sign known, the rank has the code in it
  have hcode : x.code = y.code := by
    rw [rank, rank, hs] at hrank
    split at hrank
    · exact Int.natCast_inj.1 (neg_injective hrank)
    · exact Int.natCast_inj.1 hrank
  cases x
  cases y
  obtain rfl : _ = _ := hs
  obtain rfl : _ = _ := hcode
  rfl

/-- What is above zero has no sign. -/
theorem negative_eq_false_of_pos {x : Binary p} (h : 0 < x.toEReal) : x.negative = false := by
  rw [← Bool.not_eq_true]
  intro hs
  rw [toEReal_eq, if_pos hs] at h
  exact absurd h (not_lt.2 (EReal.neg_le_zero.2 (p.extent_nonneg _)))

/-- "At most" compares values. -/
theorem numLe_iff {x y : Binary p} (hx : x.isNaN = false) (hy : y.isNaN = false) :
    x.numLe y = true ↔ x.toEReal ≤ y.toEReal := by
  rw [toEReal_le_iff hx hy, numLe, hx, hy]
  simp

/-- "Less than" compares values. -/
theorem numLt_iff {x y : Binary p} (hx : x.isNaN = false) (hy : y.isNaN = false) :
    x.numLt y = true ↔ x.toEReal < y.toEReal := by
  rw [← not_le, toEReal_le_iff hy hx, numLt, hx, hy]
  simp

/-- "Below zero" is so in value, of which the negative zero is not. -/
theorem isBelowZero_iff {x : Binary p} (hx : x.isNaN = false) :
    x.isBelowZero = true ↔ x.toEReal < 0 := by
  have hzero : (zero false : Binary p).toEReal = 0 := toEReal_of_code_eq_zero rfl
  rw [isBelowZero, numLt_iff hx (isNaN_of_code_le (Nat.zero_le _)), hzero]

end Binary

/-! ### Widening -/

namespace Precision

/-- **Every significand that is short enough has a code at every exponent.** The induction doubles the
magnitude: a code with an exponent field moves on to the next exponent, and one without is its own
magnitude. -/
theorem exists_units_eq (p : Precision) {m : Nat} (hm : m < 2 * 2 ^ p.fractionBits) (k : Nat) :
    ∃ c, p.units c = m * 2 ^ k := by
  induction k with
  | zero => exact ⟨m, by rw [units_of_lt hm, Nat.pow_zero, Nat.mul_one]⟩
  | succ k ih =>
    obtain ⟨c, hc⟩ := ih
    rw [Nat.pow_succ, ← Nat.mul_assoc, ← hc]
    by_cases hsmall : c < 2 ^ p.fractionBits
    · -- no exponent yet: twice the code is twice the magnitude
      refine ⟨c * 2, ?_⟩
      rw [units_of_lt (by omega), units_of_lt (by omega)]
    · -- one more in the exponent field doubles the magnitude and leaves the fraction
      refine ⟨c + 2 ^ p.fractionBits, ?_⟩
      have hexp : c / 2 ^ p.fractionBits ≠ 0 := by
        rw [Nat.div_ne_zero_iff]
        exact ⟨p.fraction_pos.ne', Nat.not_lt.1 hsmall⟩
      obtain ⟨e, he⟩ := Nat.exists_eq_succ_of_ne_zero hexp
      rw [units, units, Nat.add_div_right _ p.fraction_pos, Nat.add_mod_right, he,
        if_neg (Nat.succ_ne_zero _), if_neg (Nat.succ_ne_zero _), Nat.succ_sub_one,
        Nat.succ_sub_one, Nat.pow_succ, Nat.mul_assoc]

/-- The magnitude of a code is a short multiple of the step to the next code. -/
theorem units_eq_mul_gap (p : Precision) (c : Nat) :
    ∃ m, m < 2 * 2 ^ p.fractionBits ∧ p.units c = m * 2 ^ (c / 2 ^ p.fractionBits - 1) := by
  have hfrac : c % 2 ^ p.fractionBits < 2 ^ p.fractionBits := Nat.mod_lt _ p.fraction_pos
  rw [units]
  split
  · next hexp =>
    refine ⟨c % 2 ^ p.fractionBits, by omega, ?_⟩
    rw [hexp, Nat.zero_sub, Nat.pow_zero, Nat.mul_one]
  · -- the significand with its leading one, times the step
    exact ⟨2 ^ p.fractionBits + c % 2 ^ p.fractionBits, by omega, rfl⟩

/-- The magnitude that the code of infinity would have if exponents had no limit. -/
theorem units_infinityCode (p : Precision) :
    p.units p.infinityCode = 2 ^ (p.fractionBits + (2 ^ p.exponentBits - 2)) := by
  have hexp : 2 ^ p.exponentBits - 1 ≠ 0 := by cases p <;> decide
  have hcode : p.infinityCode = (2 ^ p.exponentBits - 1) * 2 ^ p.fractionBits + 0 := rfl
  -- the fraction is empty, so only the leading one is left of the significand
  rw [hcode, units_add p.fraction_pos, if_neg hexp, Nat.add_zero, ← Nat.pow_add, Nat.sub_sub]

/-- **Every finite magnitude of the one precision is one of the other.** -/
def FitsIn (p q : Precision) : Prop :=
  ∀ c < p.infinityCode, ∃ d < q.infinityCode, q.units d * 2 ^ p.depth = p.units c * 2 ^ q.depth

/-- The numbers of 64 bits have room for the significands and the exponents of those of 32 bits. -/
theorem single_fitsIn_double : single.FitsIn double := by
  intro c hc
  obtain ⟨m, hm, hunits⟩ := units_eq_mul_gap single c
  have hwide : m < 2 * 2 ^ double.fractionBits := hm.trans (by decide)
  -- the same significand at the same exponent, counted from the lower unit of the wide precision
  obtain ⟨d, hd⟩ := exists_units_eq double hwide
    (c / 2 ^ single.fractionBits - 1 + (double.depth - single.depth))
  have hscale : double.units d = single.units c * 2 ^ (double.depth - single.depth) := by
    rw [hd, hunits, Nat.pow_add, Nat.mul_assoc]
  refine ⟨d, ?_, ?_⟩
  · -- the code is below that of infinity because the magnitude is
    rw [← units_lt_units_iff, hscale]
    refine lt_of_lt_of_le (Nat.mul_lt_mul_of_pos_right (units_lt_units hc) (Nat.two_pow_pos _)) ?_
    rw [units_infinityCode, units_infinityCode, ← Nat.pow_add]
    exact Nat.pow_le_pow_right Nat.two_pos (by decide)
  · rw [hscale, Nat.mul_assoc, ← Nat.pow_add, Nat.sub_add_cancel (by decide)]

end Precision

namespace Binary

variable {p q : Precision}

/-- Rounding is the search for the nearest code, cut off at infinity. -/
theorem code_round (s : Bool) (num den : Nat) :
    (round s num den : Binary p).code = min (p.nearestCode num den) p.infinityCode := rfl

/-- A finite number is rounded from the units of the one precision to those of the other. -/
theorem convert_of_finite {x : Binary p} (h : x.code < p.infinityCode) :
    x.convert q = round x.negative (p.units x.code * 2 ^ q.depth) (2 ^ p.depth) :=
  if_pos (decide_eq_true h)

/-- An infinity is not rounded. -/
theorem convert_of_infinite {x : Binary p} (h : x.code = p.infinityCode) :
    x.convert q = infinity x.negative := by
  have hfin : x.isFinite = false := decide_eq_false (Nat.not_lt.2 h.ge)
  have hnan : x.isNaN = false := decide_eq_false (Nat.not_lt.2 h.le)
  rw [convert, hfin, hnan]
  rfl

/-- A NaN stays a NaN, so what is none after a conversion was none before. -/
theorem isNaN_of_isNaN_convert {x : Binary p} (h : (x.convert q).isNaN = false) :
    x.isNaN = false := by
  rw [← Bool.not_eq_true]
  intro hx
  have hfin : x.isFinite = false := decide_eq_false (Nat.not_lt.2 (of_decide_eq_true hx).le)
  have hquiet : (nan x.negative : Binary q).isNaN = true :=
    decide_eq_true (Nat.lt_add_of_pos_right (Nat.two_pow_pos _))
  rw [convert, hfin, hx] at h
  exact absurd hquiet (Bool.eq_false_iff.1 h)

/-- A number that is not a NaN stays what it is in its own precision. -/
theorem convert_self {x : Binary p} (hx : x.isNaN = false) : x.convert p = x := by
  obtain ⟨s, c, hc⟩ := x
  rcases Nat.lt_or_eq_of_le (code_le_of_isNaN hx) with hfin | hinf
  · -- a magnitude is its own rounding, and finite, so nothing is cut off
    have hcode : min (p.nearestCode (p.units c * 2 ^ p.depth) (2 ^ p.depth)) p.infinityCode = c := by
      rw [Precision.nearestCode_units_mul _ _ (Nat.two_pow_pos _)]
      exact Nat.min_eq_left (Nat.le_of_lt hfin)
    rw [convert_of_finite hfin]
    simp only [round, hcode]
  · rw [convert_of_infinite hinf]
    simp only [infinity, ← hinf]

/-- **Widening a number keeps its value.** -/
theorem toEReal_convert (hpq : p.FitsIn q) {x : Binary p} (hx : x.isNaN = false) :
    (x.convert q).toEReal = x.toEReal := by
  rw [toEReal_eq, toEReal_eq, negative_convert]
  rcases Nat.lt_or_eq_of_le (code_le_of_isNaN hx) with hfin | hinf
  · obtain ⟨d, hd, hunits⟩ := hpq x.code hfin
    -- the magnitude is its own rounding, so nothing is lost
    have hcode : (x.convert q).code = d := by
      rw [convert_of_finite hfin, code_round, ← hunits,
        Precision.nearestCode_units_mul _ _ (Nat.two_pow_pos _)]
      exact Nat.min_eq_left hd.le
    have hextent : q.extent d = p.extent x.code := by
      refine le_antisymm ?_ ?_
      · rw [Precision.extent_le_extent_iff_units hd hfin, hunits]
      · rw [Precision.extent_le_extent_iff_units hfin hd, hunits]
    rw [hcode, hextent]
  · -- an infinity, whose extent is infinite in both precisions
    have hcode : (x.convert q).code = q.infinityCode := by
      rw [convert_of_infinite hinf, infinity]
    rw [hcode, hinf, Precision.extent_of_le le_rfl, Precision.extent_of_le le_rfl]

end Binary

end Haystack
