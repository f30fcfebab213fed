import Haystack.Proofs.Binary.Ceiling

/-!
# Rounding to nearest

What a rounding of the arithmetic is, in terms of values: of all numbers of the precision none is nearer
to the exact result, and of two that are equally near the one with the even code is taken
(`IsNearest`). An infinity takes part with the value that its code would have if exponents had no limit,
which is what decides between infinity and the largest finite number.

* `Precision.nearestCode_nearest` says it of codes: every code lies at or below the last one before the
  quotient, or at or above the next one, so only these two can be nearest.
* `Binary.isNearest_round` says it of numbers, where a sign is put in front and codes are cut off at
  infinity, and `Binary.isNearest_convert` of a change of precision.
-/

namespace Haystack

namespace Precision

variable {p : Precision} {c num den : Nat}

/-! ### The nearest code -/

/-- How far the magnitude of a code is from `num / den` units, in parts of `den`. -/
def deviation (p : Precision) (num den c : Nat) : Nat :=
  ((p.units c * den : Nat) - (num : Nat) : Int).natAbs

/-- **No code is nearer than the nearest one**, and if another one is as near, the nearest one is even. -/
theorem nearestCode_nearest (num : Nat) (hden : 0 < den) (c : Nat) :
    p.deviation num den (p.nearestCode num den) ≤ p.deviation num den c
      ∧ (p.deviation num den c = p.deviation num den (p.nearestCode num den) →
        c = p.nearestCode num den ∨ p.nearestCode num den % 2 = 0) := by
  obtain ⟨hlow, hhigh⟩ := p.units_floorCode_div num hden
  have hcases := p.nearestCode_cases num den
  rw [Nat.add_mul] at hcases
  unfold deviation
  generalize p.floorCode (num / den) = lower at hlow hhigh hcases
  -- the code is on one side of the quotient, and there the one next to the quotient is nearer
  rcases Nat.lt_or_ge lower c with hc | hc
  · have hunits : p.units (lower + 1) * den ≤ p.units c * den := (units_mul_le_iff hden).2 hc
    have hequal : p.units c * den ≤ p.units (lower + 1) * den → c ≤ lower + 1 :=
      (units_mul_le_iff hden).1
    -- at or above the code after the quotient: that one is nearer, and it is the nearest one or ties with it
    rcases hcases with ⟨hnearest, hmiddle, heven⟩ | ⟨hnearest, hmiddle, heven⟩
    · rw [hnearest]
      omega
    · rw [hnearest]
      omega
  · have hunits : p.units c * den ≤ p.units lower * den := (units_mul_le_iff hden).2 hc
    have hequal : p.units lower * den ≤ p.units c * den → lower ≤ c := (units_mul_le_iff hden).1
    -- at or below the last code before the quotient: the same from the other side
    rcases hcases with ⟨hnearest, hmiddle, heven⟩ | ⟨hnearest, hmiddle, heven⟩
    · rw [hnearest]
      omega
    · rw [hnearest]
      omega

/-- **Cut off at infinity, the nearest code is the nearest one up to infinity.** -/
theorem min_nearestCode_nearest (num : Nat) (hden : 0 < den) (hc : c ≤ p.infinityCode) :
    p.deviation num den (min (p.nearestCode num den) p.infinityCode) ≤ p.deviation num den c
      ∧ (p.deviation num den c = p.deviation num den (min (p.nearestCode num den) p.infinityCode) →
        c = min (p.nearestCode num den) p.infinityCode
          ∨ min (p.nearestCode num den) p.infinityCode % 2 = 0) := by
  rcases Nat.lt_or_ge p.infinityCode (p.nearestCode num den) with hover | hle
  · -- all codes up to infinity are before the quotient, and infinity is the last of them
    rw [Nat.min_eq_right hover.le]
    have hinf : p.units p.infinityCode * den ≤ num := by
      by_contra hshort
      exact absurd (nearestCode_le hden (Nat.not_le.1 hshort).le) (Nat.not_le.2 hover)
    have hunits : p.units c * den ≤ p.units p.infinityCode * den := (units_mul_le_iff hden).2 hc
    have hequal : p.units p.infinityCode * den ≤ p.units c * den → p.infinityCode ≤ c :=
      (units_mul_le_iff hden).1
    unfold deviation
    omega
  · -- nothing was cut off, and the claim is the one about the nearest code
    rw [Nat.min_eq_left hle]
    exact nearestCode_nearest num hden c

/-- The deviation is the distance of the values, on the scale of the units and of `den`. -/
theorem abs_unlimited_sub (p : Precision) (num c : Nat) (hden : 0 < den) :
    |p.unlimited c - num / den / 2 ^ p.depth| = p.deviation num den c / (den * 2 ^ p.depth) := by
  have hscale : (0 : ℝ) < den * 2 ^ p.depth := by positivity
  have hden' : (den : ℝ) ≠ 0 := Nat.cast_ne_zero.2 hden.ne'
  -- over the common denominator the difference is the one that `deviation` takes as an integer
  have hdiff : p.unlimited c - num / den / 2 ^ p.depth
      = (p.units c * den - num) / (den * 2 ^ p.depth) := by
    unfold unlimited
    field_simp
  rw [hdiff, abs_div, abs_of_pos hscale, deviation, Nat.cast_natAbs]
  push_cast
  rfl

end Precision

namespace Binary

variable {p q : Precision}

/-! ### Signs -/

/-- A magnitude with its sign. -/
noncomputable def signed (s : Bool) (a : ℝ) : ℝ :=
  if s then -a else a

/-- The value of a number is the value of its code with the sign in front. -/
theorem toReal_eq (x : Binary p) : x.toReal = signed x.negative (p.unlimited x.code) := by
  rw [toReal, signedUnits, signed]
  cases x.negative
  · simp [magnitude, Precision.unlimited]
  · simp [magnitude, Precision.unlimited, neg_div]

/-- Values of one sign are as far apart as their magnitudes. -/
theorem abs_signed_sub (s : Bool) (a b : ℝ) : |signed s a - signed s b| = |a - b| := by
  cases s
  · rfl
  · show |-a - -b| = |a - b|
    rw [neg_sub_neg, abs_sub_comm]

/-- Values of opposite signs are apart by the sum of their magnitudes. -/
theorem abs_signed_sub_of_ne {s t : Bool} (h : s ≠ t) {a b : ℝ} (ha : 0 ≤ a) (hb : 0 ≤ b) :
    |signed s a - signed t b| = a + b := by
  cases s <;> cases t
  · exact absurd rfl h
  · show |a - -b| = a + b
    rw [sub_neg_eq_add, abs_of_nonneg (add_nonneg ha hb)]
  · show |-a - b| = a + b
    rw [← neg_add', abs_neg, abs_of_nonneg (add_nonneg ha hb)]
  · exact absurd rfl h

/-! ### The nearest number -/

/-- **A number is the nearest one to a real number**, the even one where two are equally near. Infinities
are numbers here, with the values that they would have if exponents had no limit. -/
structure IsNearest (a : ℝ) (u : Binary q) : Prop where
  ordered : u.isNaN = false
  nearest : ∀ v : Binary q, v.isNaN = false → |u.toReal - a| ≤ |v.toReal - a|
  even : ∀ v : Binary q, v.isNaN = false → |v.toReal - a| = |u.toReal - a| →
    v.toReal = u.toReal ∨ u.code % 2 = 0

/-- **The sign can be left out**: on the other side of zero nothing is nearer than zero itself. -/
theorem IsNearest.of_magnitude {a : ℝ} {u : Binary q} (ha : 0 ≤ a) (hu : u.isNaN = false)
    (h : ∀ c ≤ q.infinityCode, |q.unlimited u.code - a| ≤ |q.unlimited c - a|
      ∧ (|q.unlimited c - a| = |q.unlimited u.code - a| → c = u.code ∨ u.code % 2 = 0)) :
    IsNearest (signed u.negative a) u := by
  have hself : |u.toReal - signed u.negative a| = |q.unlimited u.code - a| := by
    rw [toReal_eq, abs_signed_sub]
  -- zero is on both sides, and no farther from `a` than anything on the other side is
  obtain ⟨hzero, htie⟩ := h 0 (Nat.zero_le _)
  rw [q.unlimited_zero, zero_sub, abs_neg, abs_of_nonneg ha] at hzero htie
  refine ⟨hu, ?_, ?_⟩
  · intro v hv
    rw [hself, toReal_eq v]
    by_cases hsign : v.negative = u.negative
    · rw [hsign, abs_signed_sub]
      exact (h v.code (code_le_of_isNaN hv)).1
    · -- from the other side of zero the distance is at least `a`, which is that of zero
      rw [abs_signed_sub_of_ne hsign (q.unlimited_nonneg _) ha]
      calc |q.unlimited u.code - a| ≤ a := hzero
        _ ≤ q.unlimited v.code + a := le_add_of_nonneg_left (q.unlimited_nonneg _)
  · intro v hv heq
    rw [hself, toReal_eq v] at heq
    by_cases hsign : v.negative = u.negative
    · rw [hsign, abs_signed_sub] at heq
      refine ((h v.code (code_le_of_isNaN hv)).2 heq).imp_left fun hcode => ?_
      rw [toReal_eq v, toReal_eq u, hsign, hcode]
    · -- what is as near from there is zero, so that zero is as near as `u`
      rw [abs_signed_sub_of_ne hsign (q.unlimited_nonneg _) ha] at heq
      have hnear : a ≤ |q.unlimited u.code - a| := by
        rw [← heq]
        exact le_add_of_nonneg_left (q.unlimited_nonneg _)
      refine .inr ((htie (le_antisymm hnear hzero)).elim (fun hcode => ?_) id)
      rw [← hcode]

/-- **Rounding gives the nearest number.** -/
theorem isNearest_round (s : Bool) (num : Nat) {den : Nat} (hden : 0 < den) :
    IsNearest (signed s (num / den / 2 ^ q.depth)) (round s num den : Binary q) := by
  refine .of_magnitude (by positivity) (isNaN_round ..) ?_
  intro c hc
  have hscale : (0 : ℝ) < den * 2 ^ q.depth := by positivity
  -- both distances are deviations over one denominator, which is cancelled
  rw [q.abs_unlimited_sub num _ hden, q.abs_unlimited_sub num _ hden, code_round,
    div_le_div_iff_of_pos_right hscale, div_left_inj' hscale.ne', Nat.cast_le, Nat.cast_inj]
  exact Precision.min_nearestCode_nearest num hden hc

/-- **Changing the precision of a finite number rounds its value to nearest.** -/
theorem isNearest_convert (q : Precision) {x : Binary p} (hx : x.isFinite = true) :
    IsNearest x.toReal (x.convert q) := by
  -- the fraction that the conversion rounds is the magnitude of the number
  have hvalue : ((p.units x.code * 2 ^ q.depth : Nat) / (2 ^ p.depth : Nat) / 2 ^ q.depth : ℝ)
      = p.unlimited x.code := by
    unfold Precision.unlimited
    push_cast
    field_simp
  rw [toReal_eq, ← hvalue, convert_of_finite (of_decide_eq_true hx)]
  exact isNearest_round x.negative _ (Nat.two_pow_pos _)

end Binary

end Haystack
