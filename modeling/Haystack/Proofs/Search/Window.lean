import Haystack.Proofs.Binary.Neighbour
import Haystack.Proofs.Search.Tolerance

/-!
# What a window admits

Whether two numbers are within a window is decided by a numeric equality, a distance that was rounded, and
a comparison, each with its own rule for NaNs, infinities and zeros. This file says what the three come to
together, by the class of the two numbers and in terms of their values.

A NaN is in no window. An infinity is in every window around itself and only in the infinite one around
anything else. For finite numbers the window is **honest about rounding**: nothing that is within the
width in exact arithmetic is left out, and what is let in is nearer than the next number above the width.
More cannot be said, because the rounding of the distance hides what lies between a width and the number
that comes next after it.

* `Tolerance.admits_symmetric_and_honest` puts the cases together, for every window that there can be,
  numbers of both precisions, and in either order of the two.
-/

namespace Haystack

namespace Tolerance

open Binary

variable {p : Precision} {x y u : Binary p} (t : Tolerance p)

/-- The width of a window is not below zero. -/
theorem toEReal_width_nonneg : 0 ≤ t.width.toEReal :=
  (exists_width_iff.1 ⟨t, rfl⟩).2

/-! ### By class -/

/-- **A window is symmetric.** -/
theorem admits_comm (x y : Binary p) : t.admits x y = t.admits y x := by
  rw [admits, admits, numEq_comm, distance_comm]

/-- A NaN is neither equal to anything nor at a distance from it. -/
theorem admits_eq_false_of_isNaN (hx : x.isNaN = true) (y : Binary p) : t.admits x y = false := by
  have hequal : x.numEq y = false := by
    rw [Binary.numEq, hx]
    rfl
  have hdistance : (x.distance y).numLe t.width = false := by
    rw [numLe, isNaN_distance hx]
    rfl
  rw [admits, hequal, hdistance, Bool.or_false]

/-- An infinity is in every window around itself. -/
theorem admits_self_of_isInfinite (hx : x.isInfinite = true) : t.admits x x = true := by
  rw [admits, numEq_self (isNaN_of_isInfinite hx), Bool.true_or]

/-- The infinite window is the only one that reaches from an infinity to another number. -/
theorem admits_iff_of_isInfinite (hx : x.isInfinite = true) (hy : y.isNaN = false) (hxy : x ≠ y) :
    t.admits x y = true ↔ t.width.isInfinite = true := by
  have hwc : t.width.code ≤ p.infinityCode := code_le_of_isNaN t.ordered
  rw [admits, numEq_eq_false_of_isInfinite hx hxy, Bool.false_or, distance_of_isInfinite hx hy hxy,
    numLe_iff (isNaN_infinity false) t.ordered, toEReal_of_nonneg t.toEReal_width_nonneg,
    toEReal_of_positive rfl]
  -- infinity is at most the width if the width is infinite
  rw [show (infinity false : Binary p).code = p.infinityCode from rfl,
    Precision.extent_le_extent_iff le_rfl hwc, isInfinite, beq_iff_eq]
  exact ⟨hwc.antisymm, Eq.ge⟩

/-- **Nothing is left out** that is within the width in exact arithmetic. -/
theorem admits_of_le (hx : x.isFinite = true) (hy : y.isFinite = true)
    (h : ((|x.toReal - y.toReal| : ℝ) : EReal) ≤ t.width.toEReal) : t.admits x y = true :=
  (t.admits_iff x y).2 (.inr (numLe_distance hx hy t.ordered h))

variable {t} in
/-- **What is let in is nearer than the next number** above the width. -/
theorem lt_of_admits (hx : x.isFinite = true) (hy : y.isFinite = true)
    (hw : t.width.isFinite = true) (h : t.admits x y = true) (hu : IsNextAbove t.width u) :
    ((|x.toReal - y.toReal| : ℝ) : EReal) < u.toEReal := by
  rcases (t.admits_iff x y).1 h with hequal | hle
  · -- equal numbers are at distance zero, which is below what comes next above a width
    have hxc : x.code < p.infinityCode := of_decide_eq_true hx
    have hyc : y.code < p.infinityCode := of_decide_eq_true hy
    rw [numEq_iff (isNaN_of_code_le hxc.le) (isNaN_of_code_le hyc.le), toEReal, toEReal, if_pos hx,
      if_pos hy, EReal.coe_eq_coe_iff] at hequal
    rw [hequal, sub_self, abs_zero, EReal.coe_zero]
    exact lt_of_le_of_lt t.toEReal_width_nonneg hu.lt
  · exact lt_of_numLe_distance hx hy hw t.toEReal_width_nonneg hle hu

/-! ### Every window -/

/-- **A window is symmetric and honest about rounding.** -/
theorem admits_symmetric_and_honest (x y : Binary p) :
    t.admits x y = t.admits y x
      ∧ (x.isNaN = true ∨ y.isNaN = true → t.admits x y = false)
      ∧ (x.isInfinite = true → t.admits x x = true)
      ∧ (x.isInfinite = true → y.isNaN = false → x ≠ y →
        (t.admits x y = true ↔ t.width.isInfinite = true))
      ∧ (x.isFinite = true → y.isFinite = true →
        IsNearest |x.toReal - y.toReal| (x.distance y)
          ∧ (((|x.toReal - y.toReal| : ℝ) : EReal) ≤ t.width.toEReal → t.admits x y = true)
          ∧ (t.admits x y = true → t.width.isInfinite = true
            ∨ ∃ u, IsNextAbove t.width u
              ∧ ((|x.toReal - y.toReal| : ℝ) : EReal) < u.toEReal)) := by
  refine ⟨t.admits_comm x y, ?_, t.admits_self_of_isInfinite, t.admits_iff_of_isInfinite,
    fun hx hy => ⟨isNearest_distance hx hy, t.admits_of_le hx hy, fun h => ?_⟩⟩
  · rintro (hx | hy)
    · exact t.admits_eq_false_of_isNaN hx y
    · rw [t.admits_comm]
      exact t.admits_eq_false_of_isNaN hy x
  · rcases Nat.lt_or_eq_of_le (code_le_of_isNaN t.ordered) with hfin | hinf
    · -- a finite width has a number that comes next above it
      have hw : t.width.isFinite = true := decide_eq_true hfin
      obtain ⟨u, hu, -⟩ := exists_isNextAbove t.toEReal_width_nonneg hw
      exact .inr ⟨u, hu, lt_of_admits hx hy hw h hu⟩
    · exact .inl (beq_iff_eq.2 hinf)

/-- The window of width `1`. -/
def unitWindow : Tolerance .single where
  width := ofBits .single 0x3F800000
  ordered := by decide
  nonnegative := by decide

/-- In the window of width `1` there is no NaN, and an infinity is in it with itself only. The numbers `1`
and `0` are that far apart. The numbers `1` and `-2 ^ (-30)` are farther apart, but below the next number
above `1`, and let in because their distance is rounded down. -/
theorem admits_symmetric_and_honest_unit :
    ((nan true : Single).isNaN = true ∧ unitWindow.admits (infinity true) (nan true) = false)
      ∧ ((infinity true : Single).isInfinite = true
        ∧ unitWindow.admits (infinity true) (infinity true) = true)
      ∧ ((infinity false : Single).isNaN = false ∧ (infinity true : Single) ≠ infinity false
        ∧ (unitWindow.admits (infinity true) (infinity false) = true
          ↔ unitWindow.width.isInfinite = true))
      ∧ unitWindow.admits (ofBits .single 0x3F800000) (ofBits .single 0) = true
      ∧ unitWindow.admits (ofBits .single 0x3F800000) (ofBits .single 0xB0800000) = true
      ∧ ∃ u, IsNextAbove unitWindow.width u
        ∧ ((|(ofBits .single 0x3F800000).toReal - (ofBits .single 0xB0800000).toReal| : ℝ) : EReal)
          < u.toEReal := by
  have hsymmetric := fun x y => admits_symmetric_and_honest unitWindow x y
  obtain ⟨-, hnan, hself, -⟩ := hsymmetric (infinity true) (nan true)
  obtain ⟨-, -, -, hopposite, -⟩ := hsymmetric (infinity true) (infinity false)
  obtain ⟨-, -, -, -, hexact⟩ := hsymmetric (ofBits .single 0x3F800000) (ofBits .single 0)
  obtain ⟨-, -, -, -, hrounded⟩ := hsymmetric (ofBits .single 0x3F800000) (ofBits .single 0xB0800000)
  -- the numbers `1` and `0` are exactly as far apart as the window is wide
  have hone : ((|(ofBits .single 0x3F800000).toReal - (ofBits .single 0).toReal| : ℝ) : EReal)
      ≤ unitWindow.width.toEReal := by
    rw [abs_toReal_sub, toEReal_of_positive rfl, Precision.div_le_extent_iff (by decide)]
    decide +kernel
  have hdown : unitWindow.admits (ofBits .single 0x3F800000) (ofBits .single 0xB0800000) = true := by
    decide +kernel
  refine ⟨⟨by decide, hnan (.inr (by decide))⟩, ⟨by decide, hself (by decide)⟩,
    ⟨by decide, by decide, hopposite (by decide) (by decide) (by decide)⟩,
    (hexact (by decide) (by decide)).2.1 hone, hdown, ?_⟩
  exact ((hrounded (by decide) (by decide)).2.2 hdown).resolve_left (by decide)

end Tolerance

end Haystack
