import Haystack.Proofs.Binary.Ceiling

/-!
# Exact distances and rounded ones

The distance of two numbers is computed by one rounding, so it is not the distance of their values. This
file says what can be relied on all the same: rounding to nearest never passes a number
(`Precision.nearestCode_le`), so a distance that is at most `w` in exact arithmetic is at most `w` when
it is computed, for every `w` of the precision that the distance is rounded to.

* `ExactlyWithin` is the exact notion, over real numbers, which a caller has in mind.
* `numLe_distance` is what it comes to for the computed distance of two finite numbers.
-/

namespace Haystack

namespace Precision

variable {p q : Precision} {c : Nat}

/-- A number of units of one precision against a finite magnitude of another one. -/
theorem div_le_extent_iff {n : Nat} (hc : c < q.infinityCode) :
    ((n / 2 ^ p.depth : ℝ) : EReal) ≤ q.extent c ↔ n * 2 ^ q.depth ≤ q.units c * 2 ^ p.depth := by
  rw [extent_of_lt hc, EReal.coe_le_coe_iff, div_le_div_iff₀ (by positivity) (by positivity)]
  exact_mod_cast Iff.rfl

end Precision

namespace Binary

variable {p : Precision} {x y w : Binary p}

/-! ### Exact distances -/

/-- **Two numbers are within `w` of each other, exactly**: their values are real numbers that differ by
`w` at most, or they are one infinity. -/
inductive ExactlyWithin (w : EReal) : Binary p → Binary p → Prop
  | finite {x y : Binary p} (hx : x.isFinite = true) (hy : y.isFinite = true)
    (h : ((|x.toReal - y.toReal| : ℝ) : EReal) ≤ w) : ExactlyWithin w x y
  | infinite {x : Binary p} (hx : x.isInfinite = true) : ExactlyWithin w x x

/-- What is within a width is within a larger one. -/
theorem ExactlyWithin.mono {v w : EReal} (hvw : v ≤ w) (h : ExactlyWithin v x y) :
    ExactlyWithin w x y := by
  cases h with
  | finite hx hy h => exact .finite hx hy (h.trans hvw)
  | infinite hx => exact .infinite hx

/-- The exact distance of two finite numbers is a whole number of units. -/
theorem abs_toReal_sub (x y : Binary p) :
    |x.toReal - y.toReal| = (x.signedUnits - y.signedUnits).natAbs / 2 ^ p.depth := by
  unfold toReal
  -- both values are quotients by the same power of two, so their difference is one as well
  rw [← sub_div, abs_div, abs_of_pos (show (0 : ℝ) < 2 ^ p.depth by positivity), Nat.cast_natAbs]
  push_cast
  rfl

/-- Exact distances can be compared in units, with a width of any precision. -/
theorem ExactlyWithin.of_units {q : Precision} {w : Binary q} (hx : x.isFinite = true)
    (hy : y.isFinite = true) (hpos : w.negative = false) (hw : w.code < q.infinityCode)
    (h : (x.signedUnits - y.signedUnits).natAbs * 2 ^ q.depth ≤ q.units w.code * 2 ^ p.depth) :
    ExactlyWithin w.toEReal x y := by
  refine .finite hx hy ?_
  rw [abs_toReal_sub, toEReal_of_positive hpos, Precision.div_le_extent_iff hw]
  exact h

/-! ### Rounded distances -/

/-- The distance of finite numbers is the difference of their units, rounded. -/
theorem distance_of_finite (hx : x.isFinite = true) (hy : y.isFinite = true) :
    x.distance y = round false (x.signedUnits - y.signedUnits).natAbs 1 := by
  have hxc : x.code < p.infinityCode := of_decide_eq_true hx
  have hyc : y.code < p.infinityCode := of_decide_eq_true hy
  have hnan : (x.isNaN || y.isNaN) = false := by
    rw [isNaN_of_code_le hxc.le, isNaN_of_code_le hyc.le, Bool.or_false]
  have hinf : (x.isInfinite || y.isInfinite) = false := by
    simp [isInfinite, hxc.ne, hyc.ne]
  simp [distance, hnan, hinf]

/-- What is not below zero has the value of its code; the zero with a sign is no exception. -/
theorem toEReal_of_nonneg (h : 0 ≤ w.toEReal) : w.toEReal = p.extent w.code := by
  rw [toEReal_eq] at h ⊢
  split
  · next hneg =>
    rw [if_pos hneg] at h
    -- with a sign it is at most zero, hence zero
    have hzero : p.extent w.code = 0 :=
      le_antisymm (EReal.neg_nonneg.1 h) (p.extent_nonneg w.code)
    rw [hzero, neg_zero]
  · rfl

/-- **The computed distance of finite numbers is at most `w` if the exact one is.** -/
theorem numLe_distance (hx : x.isFinite = true) (hy : y.isFinite = true) (hw : w.isNaN = false)
    (h : ((|x.toReal - y.toReal| : ℝ) : EReal) ≤ w.toEReal) : (x.distance y).numLe w = true := by
  have hwc : w.code ≤ p.infinityCode := code_le_of_isNaN hw
  have h0 : 0 ≤ w.toEReal := le_trans (EReal.coe_nonneg.2 (abs_nonneg _)) h
  rw [toEReal_of_nonneg h0, abs_toReal_sub] at h
  rw [distance_of_finite hx hy, numLe_iff (isNaN_round ..) hw, toEReal_of_nonneg h0,
    toEReal_of_positive rfl, code_round]
  -- both sides are magnitudes now, and the one on the left is cut off at infinity
  rw [Precision.extent_le_extent_iff (Nat.min_le_right _ _) hwc]
  rcases Nat.lt_or_eq_of_le hwc with hfin | hinf
  · -- a finite width is a code whose magnitude is large enough, and rounding does not pass it
    rw [Precision.div_le_extent_iff hfin, Nat.mul_le_mul_right_iff (Nat.two_pow_pos _)] at h
    apply (Nat.min_le_left _ _).trans
    apply Precision.nearestCode_le Nat.one_pos
    rw [Nat.mul_one]
    exact h
  · -- an infinite width takes in everything
    rw [hinf]
    exact Nat.min_le_right _ _

/-- A number equals itself; a NaN alone does not. -/
theorem numEq_self (hx : x.isNaN = false) : x.numEq x = true := by
  simp [numEq, hx]

/-- Infinities are numbers. -/
theorem isNaN_of_isInfinite (hx : x.isInfinite = true) : x.isNaN = false :=
  isNaN_of_code_le (beq_iff_eq.1 hx).le

end Binary

end Haystack
