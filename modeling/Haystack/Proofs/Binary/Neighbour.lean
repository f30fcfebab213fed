import Haystack.Proofs.Binary.Distance
import Haystack.Proofs.Binary.Nearest

/-!
# Computed distances and the next number

`Binary.numLe_distance` goes from exact distances to computed ones: rounding never passes a number, so a
distance that is at most `w` is at most `w` when it is computed. This file goes the other way, where
something is lost. A distance that is computed to be at most `w` may have been rounded down to `w`; but
then no number lies between `w` and the exact distance, so this one is still below the number that comes
next after `w`.

* `Binary.IsNextAbove` is the next number, in terms of values.
* `Binary.lt_of_numLe_distance` is the bound on the exact distance.

The other facts are about the computed distance in each of its cases: of a NaN from anything, of an
infinity from a number, and of two finite numbers, where it is the exact distance rounded to nearest
(`Binary.isNearest_distance`).
-/

namespace Haystack

namespace Precision

variable {p : Precision} {c num den n : Nat}

/-- **What is rounded to a code lies before the next one.** -/
theorem lt_units_succ_mul_of_nearestCode_le (hden : 0 < den) (h : p.nearestCode num den ≤ c) :
    num < p.units (c + 1) * den := by
  obtain ⟨-, hhigh⟩ := p.units_floorCode_div num hden
  -- rounding goes to the code before the quotient or to the one after it, so the former is at most `c`
  have hfloor : p.floorCode (num / den) ≤ c := by
    rcases p.nearestCode_eq_or num den with hk | hk
    · rw [← hk]
      exact h
    · exact (Nat.le_succ _).trans (hk.symm.trans_le h)
  exact lt_of_lt_of_le hhigh ((units_mul_le_iff hden).2 (Nat.succ_le_succ hfloor))

/-- A number of units that is below the magnitude of a code is below its value, which is infinite from
the code of infinity on. -/
theorem div_lt_extent (h : n < p.units c) : ((n / 2 ^ p.depth : ℝ) : EReal) < p.extent c := by
  rcases Nat.lt_or_ge c p.infinityCode with hc | hc
  · rw [extent_of_lt hc, EReal.coe_lt_coe_iff]
    exact div_lt_div_of_pos_right (Nat.cast_lt.2 h) (by positivity)
  · rw [extent_of_le hc]
    exact EReal.coe_lt_top _

end Precision

namespace Binary

variable {p : Precision} {x y u w : Binary p}

/-! ### The next number -/

/-- **A number is the next one above another** if it is the least of those that are greater. -/
structure IsNextAbove (x u : Binary p) : Prop where
  ordered : u.isNaN = false
  lt : x.toEReal < u.toEReal
  least : ∀ v : Binary p, v.isNaN = false → x.toEReal < v.toEReal → u.toEReal ≤ v.toEReal

/-- Above a finite number that is not below zero there is a next one, and it has the next code. -/
theorem exists_isNextAbove (h0 : 0 ≤ x.toEReal) (hx : x.isFinite = true) :
    ∃ u, IsNextAbove x u ∧ u.toEReal = p.extent (x.code + 1) := by
  have hxc : x.code < p.infinityCode := of_decide_eq_true hx
  let u : Binary p := ⟨false, x.code + 1, Nat.lt_of_le_of_lt hxc p.infinityCode_lt⟩
  have hu : u.toEReal = p.extent (x.code + 1) := toEReal_of_positive rfl
  -- the candidate has the next code; infinity is among the candidates, as `x` may be the largest number
  refine ⟨u, ⟨isNaN_of_code_le hxc, ?_, fun v hv hxv => ?_⟩, hu⟩
  · rw [hu, toEReal_of_nonneg h0, ← not_le, Precision.extent_le_extent_iff hxc hxc.le]
    exact Nat.not_succ_le_self _
  · -- what is greater than `x` is positive, so codes and values are in one order
    have hvc := code_le_of_isNaN hv
    have hvalue : v.toEReal = p.extent v.code :=
      toEReal_of_positive (negative_eq_false_of_pos (lt_of_le_of_lt h0 hxv))
    rw [hvalue, toEReal_of_nonneg h0, ← not_le, Precision.extent_le_extent_iff hvc hxc.le] at hxv
    rw [hu, hvalue, Precision.extent_le_extent_iff hxc hvc]
    exact Nat.not_le.1 hxv

/-! ### Numeric equality -/

/-- The order of the two numbers makes no difference to their equality. -/
theorem numEq_comm (x y : Binary p) : x.numEq y = y.numEq x := by
  rw [numEq, numEq, Bool.and_comm (!x.isNaN), BEq.comm (a := x.rank)]

/-- **Numbers are equal if their values are**, zeros of both signs included. -/
theorem numEq_iff (hx : x.isNaN = false) (hy : y.isNaN = false) :
    x.numEq y = true ↔ x.toEReal = y.toEReal := by
  -- ranks order the numbers as values do, so that they also tell equal values
  have hrank : x.toEReal = y.toEReal ↔ x.rank = y.rank := by
    rw [le_antisymm_iff, toEReal_le_iff hx hy, toEReal_le_iff hy hx, ← le_antisymm_iff]
  rw [hrank, numEq, hx, hy]
  simp

/-- Only zeros share their rank with another number. -/
theorem eq_of_rank_eq (hx : x.code ≠ 0) (h : x.rank = y.rank) : x = y := by
  obtain ⟨s, c, hc⟩ := x
  obtain ⟨t, d, hd⟩ := y
  -- a rank is the code with its sign, and only zero has the same rank with both signs
  have hparts : s = t ∧ c = d := by
    cases s <;> cases t <;> simp [rank] at h hx ⊢ <;> omega
  obtain ⟨rfl, rfl⟩ := hparts
  rfl

/-- An infinity equals no other number. -/
theorem numEq_eq_false_of_isInfinite (hx : x.isInfinite = true) (hxy : x ≠ y) :
    x.numEq y = false := by
  have hcode : x.code ≠ 0 := by
    rw [beq_iff_eq.1 hx]
    exact p.infinityCode_pos.ne'
  have hrank : x.rank ≠ y.rank := fun h => hxy (eq_of_rank_eq hcode h)
  rw [numEq, beq_false_of_ne hrank, Bool.and_false]

/-! ### Distances by class -/

/-- The order of the two numbers makes no difference to their distance. -/
theorem distance_comm (x y : Binary p) : x.distance y = y.distance x := by
  have hunits : (x.signedUnits - y.signedUnits).natAbs = (y.signedUnits - x.signedUnits).natAbs := by
    rw [← Int.natAbs_neg, Int.neg_sub]
  rw [distance, distance, Bool.or_comm x.isNaN, Bool.or_comm x.isInfinite, hunits]
  simp only [eq_comm (a := x)]

/-- A NaN is at no distance. -/
theorem isNaN_distance (hx : x.isNaN = true) (y : Binary p) : (x.distance y).isNaN = true := by
  rw [distance, hx]
  exact decide_eq_true (Nat.lt_add_of_pos_right (Nat.two_pow_pos _))

/-- An infinity is at an infinite distance from every other number. -/
theorem distance_of_isInfinite (hx : x.isInfinite = true) (hy : y.isNaN = false) (hxy : x ≠ y) :
    x.distance y = infinity false := by
  rw [distance, isNaN_of_isInfinite hx, hy, hx]
  exact if_neg hxy

/-- **The distance of finite numbers is the exact one, rounded to nearest.** -/
theorem isNearest_distance (hx : x.isFinite = true) (hy : y.isFinite = true) :
    IsNearest |x.toReal - y.toReal| (x.distance y) := by
  have hround := isNearest_round (q := p) false (x.signedUnits - y.signedUnits).natAbs Nat.one_pos
  rw [Nat.cast_one, div_one] at hround
  rw [abs_toReal_sub, distance_of_finite hx hy]
  exact hround

/-- **The exact distance of finite numbers is below the next number** above every `w` that the computed
one does not exceed. -/
theorem lt_of_numLe_distance (hx : x.isFinite = true) (hy : y.isFinite = true)
    (hw : w.isFinite = true) (h0 : 0 ≤ w.toEReal) (h : (x.distance y).numLe w = true)
    (hu : IsNextAbove w u) : ((|x.toReal - y.toReal| : ℝ) : EReal) < u.toEReal := by
  -- the comparison of values is put down to one of codes
  have hwc : w.code < p.infinityCode := of_decide_eq_true hw
  rw [distance_of_finite hx hy, numLe_iff (isNaN_round ..) (isNaN_of_code_le hwc.le),
    toEReal_of_nonneg h0, toEReal_of_positive rfl, code_round,
    Precision.extent_le_extent_iff (Nat.min_le_right _ _) hwc.le] at h
  -- `w` is finite, so the distance was not cut off at infinity
  have hnearest : p.nearestCode (x.signedUnits - y.signedUnits).natAbs 1 ≤ w.code := by omega
  have hunits := Precision.lt_units_succ_mul_of_nearestCode_le Nat.one_pos hnearest
  rw [Nat.mul_one] at hunits
  -- the number with the code after `w` is no greater than any that comes next above `w`
  obtain ⟨v, hv, hvalue⟩ := exists_isNextAbove h0 hw
  rw [abs_toReal_sub]
  calc _ < p.extent (w.code + 1) := Precision.div_lt_extent hunits
    _ = v.toEReal := hvalue.symm
    _ ≤ u.toEReal := hv.least u hu.ordered hu.lt

end Binary

end Haystack
