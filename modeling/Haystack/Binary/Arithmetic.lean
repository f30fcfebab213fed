import Haystack.Binary.Order
import Haystack.Binary.Rounding

/-!
# Arithmetic on floating-point numbers

The operations that windows need, each of them the exact result rounded to nearest: the conversion
between the precisions, the distance of two numbers, and the step to the neighbour away from zero.
-/

namespace Haystack.Binary

-- powers of natural numbers are those of the core library, also next to other power operations
attribute [local instance (high)] instPowNat

variable {p : Precision}

/-- The number of sign `negative` nearest to `num / den` units; infinite where that overflows. -/
def round (negative : Bool) (num den : Nat) : Binary p where
  negative := negative
  code := min (p.nearestCode num den) p.infinityCode
  code_lt := Nat.lt_of_le_of_lt (Nat.min_le_right _ _) p.infinityCode_lt

/-- The magnitude of a number in units of its precision. -/
def magnitude (x : Binary p) : Nat :=
  p.units x.code

/-- The number in units of its precision, with its sign. -/
def signedUnits (x : Binary p) : Int :=
  if x.negative then -(x.magnitude : Int) else x.magnitude

/-- **The same number in another precision**, rounded to nearest. Infinities stay infinite, and a NaN
becomes a quiet NaN of the same sign. -/
def convert (q : Precision) (x : Binary p) : Binary q :=
  if x.isFinite then round x.negative (x.magnitude * 2 ^ q.depth) (2 ^ p.depth)
  else if x.isNaN then nan x.negative
  else infinity x.negative

/-- **The distance of two numbers**: the exact difference rounded to nearest, without its sign. Two
infinities of one sign have no distance, and neither has a NaN from anything. -/
def distance (x y : Binary p) : Binary p :=
  if x.isNaN || y.isNaN then nan false
  else if x.isInfinite || y.isInfinite then
    if x = y then nan false else infinity false
  else round false (x.signedUnits - y.signedUnits).natAbs 1

/-- The neighbour away from zero; an infinity and a NaN have none and stay. -/
def nextAway (x : Binary p) : Binary p :=
  if h : x.code < p.infinityCode then
    ⟨x.negative, x.code + 1, Nat.lt_of_le_of_lt h p.infinityCode_lt⟩
  else x

/-- A rounded number is cut off at infinity, so it is never a NaN. -/
theorem isNaN_round (s : Bool) (num den : Nat) : (round s num den : Binary p).isNaN = false :=
  decide_eq_false (Nat.not_lt.2 (Nat.min_le_right _ _))

/-- The code of infinity is the last one that belongs to a number. -/
theorem isNaN_infinity (s : Bool) : (infinity s : Binary p).isNaN = false := by
  simp [isNaN, infinity]

/-- Conversion makes no NaN out of a number. -/
theorem isNaN_convert {x : Binary p} (q : Precision) (h : x.isNaN = false) :
    (x.convert q).isNaN = false := by
  unfold convert
  split
  · exact isNaN_round ..
  · simp [h, isNaN_infinity]

/-- The step away from zero ends at infinity, so it leads from numbers to numbers. -/
theorem isNaN_nextAway {x : Binary p} (h : x.isNaN = false) : x.nextAway.isNaN = false := by
  unfold nextAway
  split
  · -- there was room below infinity
    simpa [isNaN] using Nat.succ_le_of_lt ‹_›
  · exact h

/-- Conversion keeps the sign bit, that of a NaN included. -/
theorem negative_convert (x : Binary p) (q : Precision) :
    (x.convert q).negative = x.negative := by
  unfold convert
  split
  · rfl
  · split <;> rfl

/-- The step away from zero keeps the sign bit. -/
theorem negative_nextAway (x : Binary p) : x.nextAway.negative = x.negative := by
  unfold nextAway
  split <;> rfl

/-- A zero converts to a zero of the same sign. -/
theorem code_convert_of_code_eq_zero {x : Binary p} (q : Precision) (h : x.code = 0) :
    (x.convert q).code = 0 := by
  have hf : x.isFinite = true := by
    simp only [isFinite, h, decide_eq_true_eq]
    cases p <;> decide
  -- a zero is finite and has no units, so what is rounded is a zero
  have hm : x.magnitude = 0 := by simp [magnitude, Precision.units, h]
  simp [convert, hf, hm, round, Precision.nearestCode_zero _ (Nat.two_pow_pos _)]

end Haystack.Binary
