import Haystack.Proofs.Binary.Value

/-!
# Rounding up

To round a number up into a narrower precision, one can round it to nearest and step to the next number
where that fell short. This file shows that the two steps together are what they should be: they lead
to the least number of the narrower precision that is not below the given one.

* `ceilCode_le_iff` — the magnitude code that the steps lead to is the least one whose magnitude is
  large enough, exponents having no limit.
* `isCeiling_roundUp` — the same of numbers, where codes are cut off at infinity.
* `isCeiling_leastPositive` and `isCeiling_infinity` — which number that is where rounding to nearest may
  fall to zero or run over.

The wide precision `p` has to have every number of the narrow one `q`, so that going back changes
nothing and shows whether rounding fell short.
-/

namespace Haystack

namespace Precision

variable {p q : Precision} {c d num den : Nat}

/-! ### The least code that is large enough -/

/-- The nearest code, or the next one where the nearest falls short. -/
def ceilCode (p : Precision) (num den : Nat) : Nat :=
  if p.units (p.nearestCode num den) * den < num then p.nearestCode num den + 1
  else p.nearestCode num den

/-- The nearest code is the last one before the quotient where the middle of the two codes around it is
not before the quotient, and the next one where it is not behind it. In the middle the even one is
taken. -/
theorem nearestCode_cases (p : Precision) (num den : Nat) :
    (p.nearestCode num den = p.floorCode (num / den)
        ∧ 2 * num ≤ (p.units (p.floorCode (num / den)) + p.units (p.floorCode (num / den) + 1)) * den
        ∧ (2 * num = (p.units (p.floorCode (num / den)) + p.units (p.floorCode (num / den) + 1)) * den →
          p.floorCode (num / den) % 2 = 0))
      ∨ (p.nearestCode num den = p.floorCode (num / den) + 1
        ∧ (p.units (p.floorCode (num / den)) + p.units (p.floorCode (num / den) + 1)) * den ≤ 2 * num
        ∧ (2 * num = (p.units (p.floorCode (num / den)) + p.units (p.floorCode (num / den) + 1)) * den →
          (p.floorCode (num / den) + 1) % 2 = 0)) := by
  simp only [nearestCode]
  -- which codes these are and where their middle lies does not matter to the choice
  generalize (p.units (p.floorCode (num / den)) + p.units (p.floorCode (num / den) + 1)) * den = middle
  generalize p.floorCode (num / den) = lower
  split
  · next h => exact .inl ⟨rfl, h.le, fun heq => absurd heq h.ne⟩
  · next hle =>
    split
    · next h => exact .inr ⟨rfl, h.le, fun heq => absurd heq h.ne'⟩
    · next hge =>
      split
      · next heven => exact .inl ⟨rfl, Nat.not_lt.1 hge, fun _ => heven⟩
      · next hodd => exact .inr ⟨rfl, Nat.not_lt.1 hle, fun _ => Nat.succ_mod_two_eq_zero_iff.2
          (Nat.mod_two_ne_zero.1 hodd)⟩

/-- The nearest code is one of the two around the quotient. -/
theorem nearestCode_eq_or (p : Precision) (num den : Nat) :
    p.nearestCode num den = p.floorCode (num / den)
      ∨ p.nearestCode num den = p.floorCode (num / den) + 1 :=
  (p.nearestCode_cases num den).imp And.left And.left

/-- The quotient lies between the two codes around it. -/
theorem units_floorCode_div (p : Precision) (num : Nat) (hden : 0 < den) :
    p.units (p.floorCode (num / den)) * den ≤ num
      ∧ num < p.units (p.floorCode (num / den) + 1) * den := by
  obtain ⟨hlow, hhigh⟩ := p.units_floorCode (num / den)
  exact ⟨(Nat.le_div_iff_mul_le hden).1 hlow, (Nat.div_lt_iff_lt_mul hden).1 hhigh⟩

/-- A denominator on both sides leaves the order of the codes as it is. -/
theorem units_mul_le_iff (hden : 0 < den) : p.units c * den ≤ p.units d * den ↔ c ≤ d := by
  rw [Nat.mul_le_mul_right_iff hden, units_le_units_iff]

/-- **The ceiling code is the least one that is large enough.** -/
theorem ceilCode_le_iff (hden : 0 < den) : p.ceilCode num den ≤ d ↔ num ≤ p.units d * den := by
  obtain ⟨hlow, hhigh⟩ := p.units_floorCode_div num hden
  -- a code that is large enough is beyond every code that is not
  have hbeyond : ∀ c, p.units c * den < num → num ≤ p.units d * den → c < d := by
    intro c hc hd
    rw [← Nat.not_le, ← units_mul_le_iff hden, Nat.not_le]
    exact lt_of_lt_of_le hc hd
  rw [ceilCode]
  split
  · next hshort =>
    -- the nearest code falls short, so it is the lower one of the two
    have hk : p.nearestCode num den = p.floorCode (num / den) := by
      refine (p.nearestCode_eq_or num den).resolve_right fun hk => ?_
      rw [hk] at hshort
      exact Nat.lt_asymm hshort hhigh
    refine ⟨fun h => ?_, hbeyond _ hshort⟩
    rw [hk] at h
    exact hhigh.le.trans ((units_mul_le_iff hden).2 h)
  · -- the nearest code is large enough, so it is either the lower one, and exact, or the upper one
    next henough =>
    refine ⟨fun h => (Nat.not_lt.1 henough).trans ((units_mul_le_iff hden).2 h), fun h => ?_⟩
    rcases p.nearestCode_eq_or num den with hk | hk
    · rw [hk]
      exact (units_mul_le_iff hden).1 (hlow.trans h)
    · -- the upper one is chosen only if the lower one is not exact
      rw [hk]
      refine hbeyond _ (lt_of_le_of_ne hlow fun hexact => ?_) h
      have hnear := p.nearestCode_units_mul (p.floorCode (num / den)) hden
      rw [hexact, hk] at hnear
      exact Nat.succ_ne_self _ hnear

/-- A ceiling is at most one step further than the nearest code. -/
theorem nearestCode_le_ceilCode (p : Precision) (num den : Nat) :
    p.nearestCode num den ≤ p.ceilCode num den := by
  unfold ceilCode
  split
  · exact Nat.le_succ _
  · exact le_rfl

/-- **Rounding to nearest does not pass a code** whose magnitude is large enough. -/
theorem nearestCode_le (hden : 0 < den) (h : num ≤ p.units d * den) :
    p.nearestCode num den ≤ d :=
  (p.nearestCode_le_ceilCode num den).trans ((ceilCode_le_iff hden).2 h)

/-- **The ceiling code, cut off at infinity, is the least one whose extent is large enough.** -/
theorem extent_le_extent_iff_ceilCode (hc : c < p.infinityCode) (hd : d ≤ q.infinityCode) :
    p.extent c ≤ q.extent d
      ↔ min (q.ceilCode (p.units c * 2 ^ q.depth) (2 ^ p.depth)) q.infinityCode ≤ d := by
  rcases Nat.lt_or_eq_of_le hd with hd | rfl
  · rw [extent_le_extent_iff_units hc hd, ← ceilCode_le_iff (Nat.two_pow_pos _)]
    omega
  · -- infinity is above everything, and nothing is cut off above it
    rw [extent_of_le (le_refl q.infinityCode)]
    exact iff_of_true le_top (Nat.min_le_right _ _)

end Precision

namespace Binary

variable {p q : Precision}

/-! ### Ceilings -/

/-- **A number is the ceiling of another one** if it is the least of its precision that is not below
it. There are two when both zeros are. -/
structure IsCeiling (x : Binary p) (u : Binary q) : Prop where
  ordered : u.isNaN = false
  le : x.toEReal ≤ u.toEReal
  least : ∀ v : Binary q, v.isNaN = false → x.toEReal ≤ v.toEReal → u.toEReal ≤ v.toEReal

/-- A number of the same value is its ceiling. -/
theorem IsCeiling.of_eq {x : Binary p} {u : Binary q} (hu : u.isNaN = false)
    (h : u.toEReal = x.toEReal) : IsCeiling x u where
  ordered := hu
  le := h.ge
  least := fun _ _ hv => h.trans_le hv

/-- **Ceilings are monotone**, as what is not below the larger number is not below the smaller one. -/
theorem IsCeiling.mono {x y : Binary p} {u v : Binary q} (hu : IsCeiling x u) (hv : IsCeiling y v)
    (h : x.toEReal ≤ y.toEReal) : u.toEReal ≤ v.toEReal :=
  hu.least v hv.ordered (h.trans hv.le)

/-- All ceilings of a number have one value. -/
theorem IsCeiling.toEReal_eq {x : Binary p} {u v : Binary q} (hu : IsCeiling x u)
    (hv : IsCeiling x v) : u.toEReal = v.toEReal :=
  le_antisymm (hu.mono hv le_rfl) (hv.mono hu le_rfl)

/-- Ceilings of one number that have one sign are equal. -/
theorem IsCeiling.eq {x : Binary p} {u v : Binary q} (hu : IsCeiling x u) (hv : IsCeiling x v)
    (hs : u.negative = v.negative) : u = v :=
  eq_of_toEReal_eq hu.ordered hv.ordered hs (hu.toEReal_eq hv)

/-- **A positive number has one ceiling.** -/
theorem IsCeiling.eq_of_pos {x : Binary p} {u v : Binary q} (hx : 0 < x.toEReal)
    (hu : IsCeiling x u) (hv : IsCeiling x v) : u = v := by
  have hupos := negative_eq_false_of_pos (lt_of_lt_of_le hx hu.le)
  have hvpos := negative_eq_false_of_pos (lt_of_lt_of_le hx hv.le)
  exact hu.eq hv (hupos.trans hvpos.symm)

/-! ### Ceilings at either end -/

/-- The least positive number. -/
def leastPositive (p : Precision) : Binary p where
  negative := false
  code := 1
  code_lt := by cases p <;> decide

/-- The largest finite number. -/
def largest (p : Precision) : Binary p where
  negative := false
  code := p.infinityCode - 1
  code_lt := Nat.lt_of_le_of_lt (Nat.sub_le _ _) p.infinityCode_lt

/-- **The ceiling of a tiny number** is the least positive number. -/
theorem isCeiling_leastPositive {x : Binary p} (hpos : 0 < x.toEReal)
    (htiny : x.toEReal ≤ (leastPositive q).toEReal) : IsCeiling x (leastPositive q) where
  ordered := isNaN_of_code_le q.infinityCode_pos
  le := htiny
  least := by
    intro v hv hxv
    have hvalue : v.toEReal = q.extent v.code :=
      toEReal_of_positive (negative_eq_false_of_pos (lt_of_lt_of_le hpos hxv))
    -- a zero would not reach up to a positive number
    have hcode : v.code ≠ 0 := by
      intro hzero
      rw [toEReal_of_code_eq_zero hzero] at hxv
      exact absurd hpos (not_lt.2 hxv)
    rw [hvalue, toEReal_of_positive rfl]
    exact (Precision.extent_le_extent_iff q.infinityCode_pos (code_le_of_isNaN hv)).2
      (Nat.pos_of_ne_zero hcode)

/-- **The ceiling of a number beyond all finite ones** is infinity. -/
theorem isCeiling_infinity {x : Binary p} (hlarge : (largest q).toEReal < x.toEReal) :
    IsCeiling x (infinity false : Binary q) := by
  have htop : (infinity false : Binary q).toEReal = ⊤ := by
    rw [toEReal_of_positive rfl]
    exact Precision.extent_of_le le_rfl
  refine ⟨isNaN_infinity false, htop ▸ le_top, fun v hv hxv => ?_⟩
  have hbeyond : (largest q).toEReal < v.toEReal := lt_of_lt_of_le hlarge hxv
  have hvalue : v.toEReal = q.extent v.code :=
    toEReal_of_positive (negative_eq_false_of_pos (lt_of_le_of_lt (toEReal_nonneg rfl) hbeyond))
  -- no code is left between that of the largest finite number and that of infinity
  have hcode : q.infinityCode - 1 < v.code := by
    rw [hvalue, toEReal_of_positive rfl, ← not_le] at hbeyond
    refine Nat.not_le.1 (mt (Precision.extent_le_extent_iff (code_le_of_isNaN hv) ?_).2 hbeyond)
    exact Nat.sub_le _ _
  rw [htop, hvalue, Precision.extent_of_le (by omega)]

/-! ### The two steps -/

/-- The number rounded to nearest in another precision, and one step further where that fell short. -/
def roundUp (q : Precision) (x : Binary p) : Binary q :=
  if ((x.convert q).convert p).numLt x then (x.convert q).nextAway else x.convert q

/-- Below infinity the step away from zero is the next code. -/
theorem code_nextAway {x : Binary p} (h : x.code < p.infinityCode) :
    x.nextAway.code = x.code + 1 := by
  rw [nextAway, dif_pos h]

/-- What is not below a positive number is positive. -/
theorem negative_eq_false_of_le {x : Binary p} {v : Binary q} (hx : x.isNaN = false)
    (hpos : x.negative = false) (hzero : x.code ≠ 0) (h : x.toEReal ≤ v.toEReal) :
    v.negative = false := by
  have hextent : p.extent x.code ≠ 0 := mt (Precision.extent_eq_zero_iff (code_le_of_isNaN hx)).1 hzero
  rw [toEReal_of_positive hpos] at h
  exact negative_eq_false_of_pos (lt_of_lt_of_le ((p.extent_nonneg _).lt_of_ne' hextent) h)

/-- Whether rounding to nearest fell short shows in the values, as going back keeps them. -/
theorem numLt_convert_convert_iff (hqp : q.FitsIn p) {x : Binary p} (hx : x.isNaN = false) :
    ((x.convert q).convert p).numLt x = true ↔ (x.convert q).toEReal < x.toEReal := by
  have hn : (x.convert q).isNaN = false := isNaN_convert q hx
  rw [numLt_iff (isNaN_convert p hn) hx, toEReal_convert hqp hn]

/-- **A positive finite number is rounded up to its ceiling code.** -/
theorem code_roundUp (hqp : q.FitsIn p) {x : Binary p} (hpos : x.negative = false)
    (hfin : x.code < p.infinityCode) :
    (x.roundUp q).code
      = min (q.ceilCode (p.units x.code * 2 ^ q.depth) (2 ^ p.depth)) q.infinityCode := by
  have hcode : (x.convert q).code
      = min (q.nearestCode (p.units x.code * 2 ^ q.depth) (2 ^ p.depth)) q.infinityCode := by
    rw [convert_of_finite hfin, code_round]
  -- the test of `roundUp` asks whether the value of the nearest code is below that of the number
  have hshort := numLt_convert_convert_iff hqp (isNaN_of_code_le hfin.le)
  rw [toEReal_of_positive ((negative_convert x q).trans hpos), toEReal_of_positive hpos, ← not_le]
    at hshort
  -- from here on only whether the nearest code falls short matters, not which code it is
  generalize hk : q.nearestCode (p.units x.code * 2 ^ q.depth) (2 ^ p.depth) = k at hcode
  rw [Precision.ceilCode, hk]
  by_cases hover : k < q.infinityCode
  · rw [Nat.min_eq_left hover.le] at hcode
    have hunits : p.extent x.code ≤ q.extent k
        ↔ p.units x.code * 2 ^ q.depth ≤ q.units k * 2 ^ p.depth :=
      Precision.extent_le_extent_iff_units hfin hover
    -- the numeric test of `roundUp` is the test on units of `ceilCode`
    rw [hcode, hunits, Nat.not_le] at hshort
    rw [roundUp]
    split
    · next h =>
      rw [if_pos (hshort.1 h), code_nextAway (hcode.trans_lt hover), hcode]
      exact (Nat.min_eq_left hover).symm
    · next h =>
      rw [if_neg (mt hshort.2 h), hcode]
      exact (Nat.min_eq_left hover.le).symm
  · -- the nearest code overflows, and infinity does not fall short
    rw [Nat.min_eq_right (Nat.not_lt.1 hover)] at hcode
    have hnot : ¬((x.convert q).convert p).numLt x = true := by
      rw [hshort, hcode, Precision.extent_of_le le_rfl, not_not]
      exact le_top
    rw [roundUp, if_neg hnot, hcode]
    split <;> omega

/-- **Rounding up gives the ceiling** of a number that is not below zero. -/
theorem isCeiling_roundUp (hqp : q.FitsIn p) {x : Binary p} (hx : x.isNaN = false)
    (hneg : x.negative = true → x.code = 0) : IsCeiling x (x.roundUp q) := by
  have hshort := numLt_convert_convert_iff hqp hx
  have hnan : (x.convert q).isNaN = false := isNaN_convert q hx
  -- where the nearest number is exact, it stays
  have hexact : (x.convert q).toEReal = x.toEReal → IsCeiling x (x.roundUp q) := by
    intro h
    rw [roundUp, if_neg (fun hlt => (hshort.1 hlt).ne h)]
    exact .of_eq hnan h
  by_cases hzero : x.code = 0
  · -- a zero of either sign is exact
    apply hexact
    rw [toEReal_of_code_eq_zero hzero,
      toEReal_of_code_eq_zero (code_convert_of_code_eq_zero q hzero)]
  · have hpos : x.negative = false := by
      cases hs : x.negative
      · rfl
      · exact absurd (hneg hs) hzero
    rcases Nat.lt_or_eq_of_le (code_le_of_isNaN hx) with hfin | hinf
    · have hcode := code_roundUp hqp hpos hfin
      -- neither of the two steps touches the sign
      have hneg' : (x.roundUp q).negative = false := by
        rw [roundUp]
        split
        · rw [negative_nextAway, negative_convert, hpos]
        · rw [negative_convert, hpos]
      have hle : (x.roundUp q).code ≤ q.infinityCode := by
        rw [hcode]
        exact Nat.min_le_right _ _
      refine ⟨isNaN_of_code_le hle, ?_, fun v hv hxv => ?_⟩
      · -- large enough: the ceiling code is, by the law of ceiling codes
        rw [toEReal_of_positive hpos, toEReal_of_positive hneg',
          Precision.extent_le_extent_iff_ceilCode hfin hle, hcode]
      · -- and the least: any other number that is large enough has a code that is, by the same law
        have hvle := code_le_of_isNaN hv
        have hvpos := negative_eq_false_of_le hx hpos hzero hxv
        rw [toEReal_of_positive hpos, toEReal_of_positive hvpos,
          Precision.extent_le_extent_iff_ceilCode hfin hvle, ← hcode] at hxv
        rw [toEReal_of_positive hneg', toEReal_of_positive hvpos,
          Precision.extent_le_extent_iff hle hvle]
        exact hxv
    · -- infinity is exact as well
      apply hexact
      rw [convert_of_infinite hinf, toEReal_of_positive hpos, toEReal_of_positive (by exact hpos), hinf,
        infinity, Precision.extent_of_le le_rfl, Precision.extent_of_le le_rfl]

end Binary

end Haystack
