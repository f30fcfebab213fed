import Haystack.Proofs.Binary.Neighbour

/-!
# Identity and numeric equality

Two numbers can be the same in two ways: they have one bit pattern, or they are numerically equal. The two
ways differ in two places. A NaN is identical to itself but not equal to itself, and the two zeros are equal
but not identical. This file says that they differ nowhere else (`numEq_iff_same_or_zeros`), and compares
numeric equality with a third notion, that of being at no distance.

A distance is rounded, so it is not plain that different numbers are at a distance from each other. They are
(`toReal_eq_of_numLe_distance`): the difference of two finite numbers is a whole number of units, and what is
not less than one unit is not rounded to zero. It is for the numbers below the normal ones that this holds.
-/

namespace Haystack.Binary

variable {p : Precision} {x y w : Binary p}

/-- The code zero is that of the two zeros. -/
theorem code_eq_zero_iff : x.code = 0 ↔ ∃ s, x = zero s := by
  constructor
  · intro hx
    refine ⟨x.negative, ?_⟩
    obtain ⟨s, c, hc⟩ := x
    obtain rfl : c = 0 := hx
    rfl
  · rintro ⟨s, rfl⟩
    rfl

/-- Zeros are numbers. -/
theorem isNaN_of_code_eq_zero (hx : x.code = 0) : x.isNaN = false :=
  isNaN_of_code_le (hx.trans_le (Nat.zero_le _))

/-- Both zeros stand at `0` in the numeric order. -/
theorem rank_of_code_eq_zero (hx : x.code = 0) : x.rank = 0 := by
  rw [rank, hx]
  split <;> rfl

/-- And nothing else stands there. -/
theorem code_eq_zero_of_rank (hx : x.rank = 0) : x.code = 0 := by
  rw [rank] at hx
  split at hx <;> omega

/-- **Numeric equality and identity** differ in NaNs and in zeros only. -/
theorem numEq_iff_same_or_zeros :
    x.numEq y = true ↔ (x = y ∧ x.isNaN = false) ∨ (x.code = 0 ∧ y.code = 0) := by
  constructor
  · intro h
    simp only [numEq, Bool.and_eq_true, Bool.not_eq_true', beq_iff_eq] at h
    obtain ⟨⟨hx, -⟩, hrank⟩ := h
    -- a rank tells the sign and the code, except that it forgets the sign of a zero
    by_cases hzero : x.code = 0
    · rw [rank_of_code_eq_zero hzero] at hrank
      exact .inr ⟨hzero, code_eq_zero_of_rank hrank.symm⟩
    · exact .inl ⟨eq_of_rank_eq hzero hrank, hx⟩
  · rintro (⟨rfl, hx⟩ | ⟨hx, hy⟩)
    · exact numEq_self hx
    · rw [numEq_iff (isNaN_of_code_eq_zero hx) (isNaN_of_code_eq_zero hy),
        toEReal_of_code_eq_zero hx, toEReal_of_code_eq_zero hy]

/-- **No difference is lost below the normal numbers**: finite numbers whose computed distance is at most
zero have one value. -/
theorem toReal_eq_of_numLe_distance (hx : x.isFinite = true) (hy : y.isFinite = true)
    (hw : w.code = 0) (h : (x.distance y).numLe w = true) : x.toReal = y.toReal := by
  have hrank : (x.distance y).rank ≤ 0 := by
    simp only [numLe, Bool.and_eq_true, decide_eq_true_eq, rank_of_code_eq_zero hw] at h
    exact h.2
  rw [distance_of_finite hx hy] at hrank
  have hcode : min (p.nearestCode (x.signedUnits - y.signedUnits).natAbs 1) p.infinityCode ≤ 0 :=
    Int.ofNat_le.1 hrank
  have hinf := p.infinityCode_pos
  have hnearest : p.nearestCode (x.signedUnits - y.signedUnits).natAbs 1 ≤ 0 := by omega
  -- what is rounded to zero is less than one unit, and a distance is a number of units
  have hunits := Precision.lt_units_succ_mul_of_nearestCode_le Nat.one_pos hnearest
  have hone : p.units 1 = 1 := by cases p <;> decide
  have hsame : x.signedUnits = y.signedUnits := by
    rw [Nat.zero_add, hone] at hunits
    omega
  rw [toReal, toReal, hsame]

/-- **An ordinary number** is neither a NaN nor a zero. -/
def Ordinary (x : Binary p) : Prop :=
  x.isNaN = false ∧ x.code ≠ 0

/-- Where one of the numbers is ordinary, numeric equality is identity. -/
theorem numEq_iff_eq (h : x.Ordinary ∨ y.Ordinary) : x.numEq y = true ↔ x = y := by
  rw [numEq_iff_same_or_zeros]
  constructor
  · rintro (⟨hxy, -⟩ | ⟨hx, hy⟩)
    · exact hxy
    · exact h.elim (fun h => absurd hx h.2) (fun h => absurd hy h.2)
  · rintro rfl
    exact .inl ⟨rfl, (or_self_iff.1 h).1⟩

end Haystack.Binary
