import Haystack.Proofs.Decimal.Shortest
import Haystack.Proofs.Binary.Nearest

/-!
# Which magnitude is nearest to a number

A number of units that is no magnitude itself lies between two that follow each other, and it is the
middle of the two that decides between them. So the nearest of all codes is the one whose middles with
its two neighbours are on either side of the number (`IsNearestCode.of_middles`), and if a middle is met,
the rule for ties has the last word. Each of the two rules leaves one nearest code
(`IsNearestCode.unique`).

**A decimal is read as the magnitude nearest to its value**, the even one of two
(`Decimal.isNearestCode_code`). The looks at the order that come before the division leave decimals aside
that are beyond half a unit or all finite magnitudes, and change nothing.
-/

namespace Haystack

/-- Whether the code `c` is taken where the code `d` is as near. -/
def Tie.Takes (tie : Tie) (c d : Nat) : Prop :=
  match tie with
  | .up => d < c
  | .toEven => c % 2 = 0

/-- Both rules for ties decide between neighbours. -/
theorem Tie.not_takes_both {c : Nat} (tie : Tie) (h : tie.Takes c (c + 1)) : ¬tie.Takes (c + 1) c := by
  cases tie with
  | up => exact absurd (show c + 1 < c from h) (by omega)
  | toEven =>
    have heven : c % 2 = 0 := h
    show ¬(c + 1) % 2 = 0
    omega

/-! ### Middles -/

/-- Of two numbers the upper one is as near at the middle, and nearer beyond it. -/
theorem abs_upper_sub_le_iff {a u v : ℚ} (huv : u < v) : |v - a| ≤ |u - a| ↔ u + v ≤ 2 * a := by
  -- distances are compared by their squares, whose difference is a product with a positive factor
  rw [← sq_le_sq, ← sub_nonneg]
  have hfactor : (u - a) ^ 2 - (v - a) ^ 2 = (v - u) * (2 * a - (u + v)) := by ring
  rw [hfactor, mul_nonneg_iff_of_pos_left (sub_pos.2 huv), sub_nonneg]

/-- The lower one is as near at the middle, and nearer before it. -/
theorem abs_lower_sub_le_iff {a u v : ℚ} (huv : u < v) : |u - a| ≤ |v - a| ↔ 2 * a ≤ u + v := by
  rw [← sq_le_sq, ← sub_nonneg]
  have hfactor : (v - a) ^ 2 - (u - a) ^ 2 = (v - u) * (u + v - 2 * a) := by ring
  rw [hfactor, mul_nonneg_iff_of_pos_left (sub_pos.2 huv), sub_nonneg]

namespace Precision

variable {p : Precision} {tie : Tie} {a : ℚ} {c c' : Nat}

/-- **The code of a magnitude nearest to `a` units**: none up to that of infinity is nearer, and of two
that are as near it is the one that the rule for ties takes. Infinity stands where it would be if
exponents had no limit. -/
structure IsNearestCode (p : Precision) (tie : Tie) (a : ℚ) (c : Nat) : Prop where
  le_infinityCode : c ≤ p.infinityCode
  nearest : ∀ d ≤ p.infinityCode, |p.units c - a| ≤ |p.units d - a|
  takes : ∀ d ≤ p.infinityCode, |p.units d - a| = |p.units c - a| → d = c ∨ tie.Takes c d

/-- Magnitudes of greater codes are greater, as rational numbers. -/
theorem cast_units_lt {c d : Nat} (h : c < d) : (p.units c : ℚ) < p.units d :=
  Nat.cast_lt.2 (units_lt_units h)

/-- Magnitudes of codes that are no less are no less, as rational numbers. -/
theorem cast_units_le {c d : Nat} (h : c ≤ d) : (p.units c : ℚ) ≤ p.units d :=
  Nat.cast_le.2 (units_le_units_iff.2 h)

/-- The lower middle of the nearest code is not beyond the number. -/
theorem IsNearestCode.lower {d : Nat} (h : p.IsNearestCode tie a (d + 1)) :
    (p.units d + p.units (d + 1) : ℚ) ≤ 2 * a
      ∧ ((p.units d + p.units (d + 1) : ℚ) = 2 * a → tie.Takes (d + 1) d) := by
  have hd : d ≤ p.infinityCode := (Nat.le_succ d).trans h.le_infinityCode
  have hstep := p.cast_units_lt (Nat.lt_succ_self d)
  have hmiddle := (abs_upper_sub_le_iff hstep).1 (h.nearest d hd)
  -- at the middle itself both neighbours are nearest, and the rule for ties took the upper one
  refine ⟨hmiddle, fun heq => ?_⟩
  have hnear := (abs_lower_sub_le_iff hstep).2 heq.ge
  exact (h.takes d hd (le_antisymm hnear (h.nearest d hd))).resolve_left (by omega)

/-- The upper middle of the nearest code is not before the number. -/
theorem IsNearestCode.upper (h : p.IsNearestCode tie a c) (hc : c < p.infinityCode) :
    2 * a ≤ p.units c + p.units (c + 1)
      ∧ (2 * a = p.units c + p.units (c + 1) → tie.Takes c (c + 1)) := by
  have hstep := p.cast_units_lt (Nat.lt_succ_self c)
  have hmiddle := (abs_lower_sub_le_iff hstep).1 (h.nearest (c + 1) hc)
  refine ⟨hmiddle, fun heq => ?_⟩
  have hnear := (abs_upper_sub_le_iff hstep).2 heq.ge
  exact (h.takes (c + 1) hc (le_antisymm hnear (h.nearest (c + 1) hc))).resolve_left (by omega)

/-- **A code between its two middles is the nearest one.** Only a neighbour can be as near, and only if
its middle is met. -/
theorem IsNearestCode.of_middles (hc : c ≤ p.infinityCode)
    (hlow : ∀ d, d + 1 = c → (p.units d + p.units c : ℚ) ≤ 2 * a
      ∧ ((p.units d + p.units c : ℚ) = 2 * a → tie.Takes c d))
    (hhigh : c < p.infinityCode → 2 * a ≤ p.units c + p.units (c + 1)
      ∧ (2 * a = p.units c + p.units (c + 1) → tie.Takes c (c + 1))) :
    p.IsNearestCode tie a c := by
  refine ⟨hc, fun d hd => ?_, fun d hd heq => ?_⟩
  · -- none is nearer: on either side the middle with the neighbour is passed first
    rcases Nat.lt_trichotomy d c with hlt | rfl | hgt
    · obtain ⟨b, rfl⟩ := Nat.exists_eq_succ_of_ne_zero (Nat.ne_zero_of_lt hlt)
      have hbelow := p.cast_units_le (Nat.le_of_lt_succ hlt)
      have hmiddle := (hlow b rfl).1
      rw [abs_upper_sub_le_iff (cast_units_lt hlt)]
      linarith
    · exact le_rfl
    · have habove := p.cast_units_le (Nat.succ_le_of_lt hgt)
      have hmiddle := (hhigh (hgt.trans_le hd)).1
      rw [abs_lower_sub_le_iff (cast_units_lt hgt)]
      linarith
  · -- one that is as near is the neighbour, whose middle is then met, and the rule for ties is asked
    rcases Nat.lt_trichotomy d c with hlt | rfl | hgt
    · obtain ⟨b, rfl⟩ := Nat.exists_eq_succ_of_ne_zero (Nat.ne_zero_of_lt hlt)
      obtain ⟨hmiddle, htie⟩ := hlow b rfl
      have hnear := (abs_lower_sub_le_iff (p.cast_units_lt hlt)).1 heq.le
      have hbelow : (p.units b : ℚ) ≤ p.units d := by linarith
      have hdb : d = b :=
        le_antisymm (Nat.le_of_lt_succ hlt) (units_le_units_iff.1 (Nat.cast_le.1 hbelow))
      subst hdb
      exact .inr (htie (le_antisymm hmiddle hnear))
    · exact .inl rfl
    · obtain ⟨hmiddle, htie⟩ := hhigh (hgt.trans_le hd)
      have hnear := (abs_upper_sub_le_iff (p.cast_units_lt hgt)).1 heq.le
      have habove : (p.units d : ℚ) ≤ p.units (c + 1) := by linarith
      have hdc : d = c + 1 :=
        le_antisymm (units_le_units_iff.1 (Nat.cast_le.1 habove)) (Nat.succ_le_of_lt hgt)
      subst hdc
      exact .inr (htie (le_antisymm hmiddle hnear))

/-- Of two nearest codes neither is before the other. -/
theorem IsNearestCode.not_lt (h : p.IsNearestCode tie a c) (h' : p.IsNearestCode tie a c') :
    ¬c < c' := by
  intro hlt
  obtain ⟨b, rfl⟩ := Nat.exists_eq_succ_of_ne_zero (Nat.ne_zero_of_lt hlt)
  obtain ⟨hhigh, htie⟩ := h.upper (hlt.trans_le h'.le_infinityCode)
  obtain ⟨hlow, htie'⟩ := h'.lower
  -- the upper middle of the one is not before the lower middle of the other
  have hstep := p.cast_units_le (Nat.succ_le_of_lt hlt)
  have hbelow := p.cast_units_le (Nat.le_of_lt_succ hlt)
  -- so the two are neighbours with one middle, and the rule for ties would take both of them
  have hcb : c = b := le_antisymm (Nat.le_of_lt_succ hlt)
    (units_le_units_iff.1 (Nat.cast_le.1 (by linarith : (p.units b : ℚ) ≤ p.units c)))
  subst hcb
  exact Tie.not_takes_both tie (htie (le_antisymm hhigh hlow)) (htie' (le_antisymm hlow hhigh))

/-- **There is only one nearest code.** -/
theorem IsNearestCode.unique (h : p.IsNearestCode tie a c) (h' : p.IsNearestCode tie a c') : c = c' :=
  le_antisymm (Nat.not_lt.1 (h'.not_lt h)) (Nat.not_lt.1 (h.not_lt h'))

/-- The rounding of a quotient. -/
theorem isNearestCode_nearestCode (p : Precision) (num : Nat) {den : Nat} (hden : 0 < den) :
    p.IsNearestCode .toEven (num / den) (min (p.nearestCode num den) p.infinityCode) := by
  have hden' : (0 : ℚ) < den := Nat.cast_pos.2 hden
  -- the distance in units is the deviation in parts of `den`, which the rounding keeps least
  have hdistance (c : Nat) : |(p.units c : ℚ) - num / den| = p.deviation num den c / den := by
    have hdiff : (p.units c : ℚ) - num / den = (p.units c * den - num) / den := by
      field_simp
    rw [hdiff, abs_div, abs_of_pos hden', deviation, Nat.cast_natAbs]
    push_cast
    rfl
  refine ⟨Nat.min_le_right _ _, fun d hd => ?_, fun d hd heq => ?_⟩
  · rw [hdistance, hdistance, div_le_div_iff_of_pos_right hden', Nat.cast_le]
    exact (min_nearestCode_nearest num hden hd).1
  · rw [hdistance, hdistance, div_left_inj' hden'.ne', Nat.cast_inj] at heq
    exact (min_nearestCode_nearest num hden hd).2 heq

end Precision

namespace Decimal

variable {p : Precision} {d : Decimal}

/-- A decimal that is beyond the magnitude of infinity by its order. -/
theorem units_infinityCode_le_of_lt_order (hd : d.coefficient ≠ 0)
    (h : 2 ^ (p.exponentBits - 1) < d.order) :
    (p.units p.infinityCode : ℚ) ≤ d.toRat * 2 ^ p.depth := by
  by_contra hlt
  exact absurd (order_le_of_lt hd (not_le.1 hlt)) (not_le.2 h)

/-- **A decimal is read as the magnitude nearest to its value.** -/
theorem isNearestCode_code (p : Precision) (d : Decimal) :
    p.IsNearestCode .toEven (d.toRat * 2 ^ p.depth) (d.code p) := by
  have hzero : (p.units 0 : ℚ) = 0 := by rw [Precision.units_of_lt (by simp)]; rfl
  have hone : (p.units 1 : ℚ) = 1 := by
    rw [Precision.units_of_lt (by have := p.fraction_pos; omega)]
    exact Nat.cast_one
  -- what is not beyond half a unit is read as zero
  have hsmall (h : 2 * (d.toRat * 2 ^ p.depth) ≤ 1) :
      p.IsNearestCode .toEven (d.toRat * 2 ^ p.depth) 0 := by
    refine .of_middles (Nat.zero_le _) nofun fun _ => ⟨?_, fun _ => rfl⟩
    rw [hzero, hone, zero_add]
    exact h
  unfold code
  split
  · next hd =>
    -- zero itself
    refine hsmall ?_
    rw [toRat_eq_zero_iff.2 hd, zero_mul, mul_zero]
    exact zero_le_one
  · next hd =>
    split
    · next horder =>
      -- an order beyond that of infinity: the decimal is past every middle
      have hinf := units_infinityCode_le_of_lt_order (p := p) hd (by exact_mod_cast horder)
      refine .of_middles le_rfl (fun c hc => ?_) fun h => absurd h (lt_irrefl _)
      have hstep := p.cast_units_lt (Nat.lt_of_succ_le hc.le)
      exact ⟨by linarith, fun heq => absurd heq (by linarith)⟩
    · split
      · next horder =>
        -- an order below that of half a unit
        refine hsmall (not_lt.1 fun hlarge => ?_)
        exact absurd (le_order_of_lt hlarge) (not_le.2 horder)
      · -- the division takes place
        rw [toRat_mul_depth_eq_div]
        exact p.isNearestCode_nearestCode _ (Nat.pow_pos (by decide))

end Decimal

end Haystack
