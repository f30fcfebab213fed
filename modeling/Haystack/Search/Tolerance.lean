import Haystack.Search.Error

/-!
# Tolerance windows

A `Tolerance` is the half-width of a symmetric window around a floating-point number. That it is
neither NaN nor below zero is part of the type, so no search has to check again; the negative zero and
infinity are proper widths. Two numbers are within the window when they are numerically equal or their
rounded distance is at most the width: the first case is what makes equal infinities match, which have
no distance.

A width of 64 bits is **narrowed** for numbers of 32 bits by rounding it up: a window may come out
wider than it was asked for, but never narrower.
-/

namespace Haystack

/-- The half-width of a search window on numbers of precision `p`. -/
structure Tolerance (p : Precision) where
  width : Binary p
  ordered : width.isNaN = false
  nonnegative : width.negative = true → width.code = 0
  deriving DecidableEq

namespace Tolerance

variable {p : Precision}

/-- The empty window, within which only numerically equal numbers lie. -/
def zero (p : Precision) : Tolerance p where
  width := Binary.zero false
  ordered := by cases p <;> decide
  nonnegative := fun _ => rfl

/-- A number that is neither NaN nor below zero is zero if its sign bit is set. -/
theorem code_eq_zero_of_not_below {x : Binary p} (hn : x.isNaN = false)
    (hb : x.isBelowZero = false) (hs : x.negative = true) : x.code = 0 := by
  have h0 : (Binary.zero false : Binary p).isNaN = false := by cases p <;> decide
  simp only [Binary.isBelowZero, Binary.numLt, hn, h0, Bool.not_false, Bool.true_and,
    decide_eq_false_iff_not] at hb
  simp only [Binary.rank, hs, Binary.zero, if_true, Bool.false_eq_true, if_false] at hb
  omega

/-- **The window of a given width**, refused when the width is NaN or below zero. The refusal shows
the width at 64 bits. -/
def ofWidth? (x : Binary p) : Except SearchError (Tolerance p) :=
  if hn : x.isNaN then .error .nanTolerance
  else if hb : x.isBelowZero then .error (.negativeTolerance (x.convert .double))
  else .ok ⟨x, by simpa using hn, code_eq_zero_of_not_below (by simpa using hn) (by simpa using hb)⟩

/-- **Narrowing**: the width rounded to 32 bits, and one step further where that fell short. -/
def narrow (t : Tolerance .double) : Tolerance .single :=
  let nearest := t.width.convert .single
  let width := if (nearest.convert .double).numLt t.width then nearest.nextAway else nearest
  have ordered : nearest.isNaN = false := Binary.isNaN_convert _ t.ordered
  { width := width
    ordered := by
      simp only [width]
      split
      · exact Binary.isNaN_nextAway ordered
      · exact ordered
    nonnegative := by
      intro h
      have hs : t.width.negative = true := by
        simp only [width] at h
        split at h
        · simpa [nearest, Binary.negative_nextAway, Binary.negative_convert] using h
        · simpa [nearest, Binary.negative_convert] using h
      -- a width with the sign bit set is a zero, and zeros are not rounded up
      have hc : nearest.code = 0 := Binary.code_convert_of_code_eq_zero _ (t.nonnegative hs)
      have hd : (nearest.convert .double).code = 0 := Binary.code_convert_of_code_eq_zero _ hc
      have hl : (nearest.convert .double).numLt t.width = false := by
        simp [Binary.numLt, Binary.rank, hd, t.nonnegative hs]
      simp [width, hl, hc] }

/-- The narrowed window of a given width of 64 bits. -/
def narrowed? (x : Double) : Except SearchError (Tolerance .single) :=
  (ofWidth? x).map narrow

/-- **Whether two numbers are within the window**: numerically equal, or at most the width apart. -/
def admits (t : Tolerance p) (x y : Binary p) : Bool :=
  x.numEq y || (x.distance y).numLe t.width

/-- Numeric equality of two widths. -/
def numEq (s t : Tolerance p) : Bool :=
  s.width.numEq t.width

/-- How two widths compare. -/
def numCompare (s t : Tolerance p) : Ordering :=
  compare s.width.rank t.width.rank

end Tolerance

end Haystack
