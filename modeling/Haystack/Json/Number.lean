import Haystack.Decimal.Numeral

/-!
# Numbers in JSON text

A JSON number is read as an integer if it is written as one, with neither fraction nor exponent, and
fits into 64 bits, unsigned when it has no sign and signed when it has one. All other numbers are read
as the nearest floating-point number; `-0` is one of them, because no integer is a negative zero. A
number beyond the finite floating-point range is not a number at all.

A numeral may have any number of digits, but only the first 768 significant ones are looked at one by
one. Digits after these can matter in one way only, by lifting the number off a point halfway between
two floating-point numbers, which never has more digits itself. So if anything follows, it counts as a
single digit `1`. The zeros at the end of a fraction have been dropped by then and do not count as
following, but those at the end of a whole number do.
-/

namespace Haystack.Json

-- powers of natural numbers are those of the core library, also next to other power operations
attribute [local instance (high)] instPowNat

/-- A number as it is read. -/
inductive Number where
  | integer (i : Int)
  | float (x : Double)
  deriving DecidableEq

namespace Number

/-- The integer that a numeral is, if it is written as one and fits. -/
def integer? (n : Numeral) : Option Int :=
  let m := Digit.toNat n.whole
  if n.isWhole then
    if n.negative then
      if 0 < m ∧ m ≤ 2 ^ (63 : Nat) then some (-(m : Int)) else none
    else if m < 2 ^ (64 : Nat) then some m
    else none
  else none

/-- How many significant digits of a numeral are looked at. -/
def digitLimit : Nat :=
  768

/-- Digits without the zeros at their end. -/
def withoutTrailingZeros (ds : List Digit) : List Digit :=
  (ds.reverse.dropWhile (· == Digit.zero)).reverse

/-- The significant digits of a numeral, without the zeros at the end of its fraction. -/
def significantDigits (n : Numeral) : List Digit :=
  (n.whole ++ withoutTrailingZeros n.fraction).dropWhile (· == Digit.zero)

/-- **The magnitude of a numeral as it is looked at**: exact up to `digitLimit` significant digits, and
beyond them with a digit `1` in the place of all that follow. -/
def magnitude (n : Numeral) : Decimal :=
  let ds := significantDigits n
  if ds.length ≤ digitLimit then n.toDecimal
  else
    let exponent := n.exponent.getD 0 - (withoutTrailingZeros n.fraction).length
    ⟨Digit.toNat (ds.take digitLimit ++ [Digit.one]), exponent + (ds.length - digitLimit - 1 : Nat)⟩

/-- **The number that a numeral stands for**, unless it is out of range. -/
def ofNumeral? (n : Numeral) : Option Number :=
  match integer? n with
  | some i => some (.integer i)
  | none =>
    let x : Double := Binary.ofDecimal n.negative (magnitude n)
    if x.isFinite then some (.float x) else none

/-- The number as a floating-point number. -/
def toDouble : Number → Double
  | integer i => Binary.ofDecimal (decide (i < 0)) ⟨i.natAbs, 0⟩
  | float x => x

end Number

/-- **The text of a floating-point number in JSON**, which has no words for infinities and NaN. -/
def ofDouble (x : Double) : List Char :=
  if x.isFinite then (Numeral.ofBinary .json x).text else ['n', 'u', 'l', 'l']

end Haystack.Json
