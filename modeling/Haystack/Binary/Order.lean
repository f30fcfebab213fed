import Haystack.Binary.Basic

/-!
# Comparison of floating-point numbers

Numeric comparison is a comparison of **ranks**: the code for a positive number, its negation for a
negative one. The rank forgets the sign of zero, so the two zeros compare as equal, and NaN, which
has no place in the order, compares with nothing, itself included. Equality of bit patterns is the
other notion of sameness, and it is the equality of the type `Binary`.
-/

namespace Haystack.Binary

variable {p : Precision}

/-- The position of a number in the numeric order; both zeros stand at `0`. -/
def rank (x : Binary p) : Int :=
  if x.negative then -(x.code : Int) else x.code

/-- Numeric equality: the zeros are equal, a NaN is equal to nothing. -/
def numEq (x y : Binary p) : Bool :=
  !x.isNaN && !y.isNaN && x.rank == y.rank

/-- Numeric "less than"; false as soon as a NaN takes part. -/
def numLt (x y : Binary p) : Bool :=
  !x.isNaN && !y.isNaN && decide (x.rank < y.rank)

/-- Numeric "at most"; false as soon as a NaN takes part. -/
def numLe (x y : Binary p) : Bool :=
  !x.isNaN && !y.isNaN && decide (x.rank ≤ y.rank)

/-- Numerically below zero, which the negative zero is not. -/
def isBelowZero (x : Binary p) : Bool :=
  x.numLt (zero false)

/-- The two zeros are numerically equal, whatever their bit patterns. -/
theorem numEq_zero_zero (s t : Bool) : (zero s : Binary p).numEq (zero t) = true := by
  cases s <;> cases t <;> cases p <;> decide

end Haystack.Binary
