import Haystack.Proofs.Binary.Nearest
import Haystack.Proofs.Search.Tolerance

/-!
# Narrowing a width

The width of a window for numbers of 32 bits is given with 64 bits. A NaN and what is below zero are
refused; every other width is narrowed, by rounding it to nearest and stepping to the next number where
that fell short.

* `narrowed?_rounds_up_tightly` says what this comes to: the least number of 32 bits that is not below
  the width. So nothing that was within the window is lost, and no smaller window would do.

Rounding to nearest can go wrong in every way on the path there: it may round down or up, fall to zero,
land below the normal numbers or run over. That the step is taken in exactly the cases that fell short is
`Tolerance.isCeiling_narrow`; what is left to say is which number the ceiling is. It is the width itself
if that is a number of 32 bits, the least positive number if the width is between zero and it, and
infinity if the width is beyond all finite numbers.
-/

namespace Haystack

namespace Tolerance

open Binary

/-! ### The two steps -/

/-- Narrowing keeps the sign, which matters to the zeros only. -/
theorem negative_narrow (t : Tolerance .double) : t.narrow.width.negative = t.width.negative := by
  show (t.width.roundUp .single).negative = t.width.negative
  -- neither the conversion nor the step changes the sign
  rw [roundUp]
  split
  · rw [negative_nextAway, negative_convert]
  · rw [negative_convert]

/-- The step is taken where rounding to nearest fell short. The test compares the numbers at 64 bits, and
going back to them keeps the value. -/
theorem width_narrow_of_short {t : Tolerance .double}
    (h : (t.width.convert .single).toEReal < t.width.toEReal) :
    t.narrow.width = (t.width.convert .single).nextAway :=
  if_pos ((numLt_convert_convert_iff Precision.single_fitsIn_double t.ordered).2 h)

/-- The step is not taken where rounding to nearest did not fall short. -/
theorem width_narrow_of_not_short {t : Tolerance .double}
    (h : t.width.toEReal ≤ (t.width.convert .single).toEReal) :
    t.narrow.width = t.width.convert .single :=
  if_neg (mt (numLt_convert_convert_iff Precision.single_fitsIn_double t.ordered).1 (not_lt.2 h))

/-- **A width that 32 bits can hold is kept**, with its sign. -/
theorem width_narrow_of_convert {t : Tolerance .double} {v : Single}
    (h : v.convert .double = t.width) : t.narrow.width = v := by
  have hv : v.isNaN = false := isNaN_of_isNaN_convert (h ▸ t.ordered)
  have hvalue : v.toEReal = t.width.toEReal := by
    rw [← h, toEReal_convert Precision.single_fitsIn_double hv]
  -- an exact number is its own ceiling, and the sign tells the zeros apart
  refine t.isCeiling_narrow.eq (.of_eq hv hvalue) ?_
  rw [negative_narrow, ← h, negative_convert]

/-! ### Narrowed widths -/

/-- **A width is refused or rounded up tightly.** -/
theorem narrowed?_rounds_up_tightly (x : Double) :
    (∀ e, narrowed? x = .error e
        ↔ (x.isNaN = true ∧ e = .nanTolerance)
          ∨ (x.isNaN = false ∧ x.toEReal < 0 ∧ e = .negativeTolerance x))
      ∧ (x.isNaN = false → 0 ≤ x.toEReal → ∃ t, narrowed? x = .ok t
        ∧ t.width.isNaN = false ∧ 0 ≤ t.width.toEReal
        ∧ x.toEReal ≤ t.width.toEReal
        ∧ (∀ v : Single, v.isNaN = false → x.toEReal ≤ v.toEReal → t.width.toEReal ≤ v.toEReal)
        ∧ (∀ v : Single, v.convert .double = x → t.width = v)
        ∧ (0 < x.toEReal → x.toEReal ≤ (leastPositive .single).toEReal →
          t.width = leastPositive .single)
        ∧ ((largest .single).toEReal < x.toEReal → t.width = infinity false)
        ∧ (x.isFinite = true → IsNearest x.toReal (x.convert .single))
        ∧ ((x.convert .single).toEReal < x.toEReal → t.width = (x.convert .single).nextAway)
        ∧ (x.toEReal ≤ (x.convert .single).toEReal → t.width = x.convert .single)) := by
  constructor
  · intro e
    -- the reason names the width as it was given, which is of 64 bits already
    rw [narrowed?_eq_error_iff, ofWidth?_eq_error_iff]
    refine or_congr_right (and_congr_right fun hx => ?_)
    rw [convert_self hx]
  · intro hx h0
    -- what is not refused is the width of a tolerance, and what is returned is its ceiling
    obtain ⟨t, rfl⟩ := exists_width_iff.2 ⟨hx, h0⟩
    have hceiling := t.isCeiling_narrow
    refine ⟨t.narrow, ?_, hceiling.ordered, h0.trans hceiling.le, hceiling.le, hceiling.least,
      fun v => width_narrow_of_convert, ?_, ?_, isNearest_convert .single,
      width_narrow_of_short, width_narrow_of_not_short⟩
    · rw [narrowed?, ofWidth?_eq_ok_iff.2 rfl]
      rfl
    · -- between zero and the least positive number, this one is the ceiling
      intro hpos htiny
      exact hceiling.eq_of_pos hpos (isCeiling_leastPositive hpos htiny)
    · -- beyond all finite numbers infinity is
      intro hlarge
      have hpos : 0 < t.width.toEReal := lt_of_le_of_lt (toEReal_nonneg rfl) hlarge
      exact hceiling.eq_of_pos hpos (isCeiling_infinity hlarge)

/-- Seven tenths fall short by the first step, one half is kept, `1e-50` would be zero without the second
step, and `1e300` runs over. -/
theorem narrowed?_rounds_up_tightly_sevenTenths :
    (∃ t, narrowed? (ofBits .double 0x3FE6666666666666) = .ok t
        ∧ ((ofBits .double 0x3FE6666666666666).convert .single).toEReal
          < (ofBits .double 0x3FE6666666666666).toEReal
        ∧ IsNearest (ofBits .double 0x3FE6666666666666).toReal
          ((ofBits .double 0x3FE6666666666666).convert .single)
        ∧ t.width = ofBits .single 0x3F333334)
      ∧ (∃ t, narrowed? (ofBits .double 0x3FE0000000000000) = .ok t
        ∧ (ofBits .single 0x3F000000).convert .double = ofBits .double 0x3FE0000000000000
        ∧ t.width = ofBits .single 0x3F000000)
      ∧ (∃ t, narrowed? (ofBits .double 0x358DEE7A4AD4B81F) = .ok t
        ∧ 0 < (ofBits .double 0x358DEE7A4AD4B81F).toEReal
        ∧ (ofBits .double 0x358DEE7A4AD4B81F).toEReal ≤ (leastPositive .single).toEReal
        ∧ t.width = leastPositive .single)
      ∧ ∃ t, narrowed? (ofBits .double 0x7E37E43C8800759C) = .ok t
        ∧ (largest .single).toEReal < (ofBits .double 0x7E37E43C8800759C).toEReal
        ∧ t.width = infinity false := by
  refine ⟨?_, ?_, ?_, ?_⟩
  · -- rounding to nearest falls short, and the step makes up for it
    have hshort : ((ofBits .double 0x3FE6666666666666).convert .single).toEReal
        < (ofBits .double 0x3FE6666666666666).toEReal :=
      (numLt_convert_convert_iff Precision.single_fitsIn_double (by decide)).1 (by decide +kernel)
    obtain ⟨t, ht, -, -, -, -, -, -, -, hnearest, hstep, -⟩ :=
      (narrowed?_rounds_up_tightly (ofBits .double 0x3FE6666666666666)).2 (by decide) (toEReal_nonneg rfl)
    exact ⟨t, ht, hshort, hnearest (by decide), (hstep hshort).trans (by decide +kernel)⟩
  · -- one half is a number of 32 bits
    have hexact : (ofBits .single 0x3F000000).convert .double = ofBits .double 0x3FE0000000000000 := by
      decide +kernel
    obtain ⟨t, ht, -, -, -, -, hkept, -⟩ :=
      (narrowed?_rounds_up_tightly (ofBits .double 0x3FE0000000000000)).2 (by decide) (toEReal_nonneg rfl)
    exact ⟨t, ht, hexact, hkept _ hexact⟩
  · -- `1e-50` is positive and below the least positive number of 32 bits
    have hpos : 0 < (ofBits .double 0x358DEE7A4AD4B81F).toEReal := by
      rw [← toEReal_of_code_eq_zero (x := Binary.zero false) rfl]
      exact (numLt_iff (by decide) (by decide)).1 (by decide)
    have htiny : (ofBits .double 0x358DEE7A4AD4B81F).toEReal ≤ (leastPositive .single).toEReal := by
      rw [← toEReal_convert Precision.single_fitsIn_double (by decide)]
      exact (numLe_iff (by decide) (by decide +kernel)).1 (by decide +kernel)
    obtain ⟨t, ht, -, -, -, -, -, hleast, -⟩ :=
      (narrowed?_rounds_up_tightly (ofBits .double 0x358DEE7A4AD4B81F)).2 (by decide) hpos.le
    exact ⟨t, ht, hpos, htiny, hleast hpos htiny⟩
  · -- `1e300` is beyond the largest number of 32 bits
    have hlarge : (largest .single).toEReal < (ofBits .double 0x7E37E43C8800759C).toEReal := by
      rw [← toEReal_convert Precision.single_fitsIn_double (by decide)]
      exact (numLt_iff (by decide +kernel) (by decide)).1 (by decide +kernel)
    obtain ⟨t, ht, -, -, -, -, -, -, hover, -⟩ :=
      (narrowed?_rounds_up_tightly (ofBits .double 0x7E37E43C8800759C)).2 (by decide) (toEReal_nonneg rfl)
    exact ⟨t, ht, hlarge, hover hlarge⟩

end Tolerance

end Haystack
