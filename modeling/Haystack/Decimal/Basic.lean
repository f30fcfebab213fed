import Haystack.Decimal.Digits
import Haystack.Binary.Arithmetic

/-!
# Decimals and the floating-point numbers they name

A `Decimal` is a coefficient times a power of ten, exactly. Reading it as a floating-point number is
one correctly rounded division (`Decimal.code`). The exponent of a decimal is unbounded, so a power
of ten is computed only after a look at the **order**, the place of the leading digit: a decimal of
huge order is infinite and one of tiny order is zero at any precision, and the powers left over are
about as long as the decimal itself.
-/

namespace Haystack

-- powers of natural numbers are those of the core library, also next to other power operations
attribute [local instance (high)] instPowNat

/-- The number `coefficient * 10 ^ exponent`. -/
structure Decimal where
  coefficient : Nat
  exponent : Int
  deriving DecidableEq

namespace Decimal

/-- The place after the leading digit: a positive decimal lies in `[10 ^ (order - 1), 10 ^ order)`. -/
def order (d : Decimal) : Int :=
  Digit.count d.coefficient + d.exponent

/-- The same number with no zero at the end of its coefficient. -/
def trim (d : Decimal) : Decimal :=
  if d.coefficient ≠ 0 ∧ d.coefficient % 10 = 0 then
    trim ⟨d.coefficient / 10, d.exponent + 1⟩
  else d
termination_by d.coefficient
decreasing_by omega

/-- **The magnitude code nearest to a decimal**, a tie going to the even code; infinite where the
decimal overflows and zero where it vanishes. A decimal of order above `2 ^ (exponentBits - 1)` is at
least `10 ^ 2 ^ (exponentBits - 1)` and so beyond all finite magnitudes; one of order below `-depth` is
less than `2 ^ (-depth - 1)` and so nearer to zero than to the least positive magnitude. -/
def code (p : Precision) (d : Decimal) : Nat :=
  if d.coefficient = 0 then 0
  else if 2 ^ (p.exponentBits - 1) < d.order then p.infinityCode
  else if d.order < -(p.depth : Int) then 0
  -- only one of the two powers of ten is more than one
  else
    min (p.nearestCode (d.coefficient * 10 ^ d.exponent.toNat * 2 ^ p.depth)
      (10 ^ (-d.exponent).toNat)) p.infinityCode

/-- Whatever a decimal is, its code belongs to a number and not to a NaN. -/
theorem code_le_infinityCode (p : Precision) (d : Decimal) : d.code p ≤ p.infinityCode := by
  unfold code
  split
  · exact Nat.zero_le _
  · split
    · exact Nat.le_refl _
    · split
      · exact Nat.zero_le _
      · exact Nat.min_le_right _ _

end Decimal

/-- The number of sign `negative` nearest to a decimal. -/
def Binary.ofDecimal {p : Precision} (negative : Bool) (d : Decimal) : Binary p where
  negative := negative
  code := d.code p
  code_lt := Nat.lt_of_le_of_lt (d.code_le_infinityCode p) p.infinityCode_lt

end Haystack
