/-!
# Binary floating-point numbers

A number of the two binary interchange widths is a sign and a **magnitude code**: the bit pattern
without its sign bit, read as a natural number. The code is the right thing to compute with, because
it is an order isomorphism: of two magnitudes the larger one has the larger code, the code of
infinity comes right after the code of the largest finite magnitude, and every code above it is a
NaN. So comparing, stepping to a neighbour and rounding are arithmetic on natural numbers, and two
numbers are the same bit pattern exactly when they are equal as values of this type.

* `Binary.ofBits` and `Binary.toBits` pass between numbers and bit patterns.
* `Binary.isNaN`, `Binary.isInfinite` and `Binary.isFinite` classify by the code alone.
-/

namespace Haystack

-- powers of natural numbers are those of the core library, also next to other power operations
attribute [local instance (high)] instPowNat

/-- The two binary interchange widths, of 32 and of 64 bits. -/
inductive Precision where
  | single
  | double
  deriving DecidableEq

namespace Precision

/-- The number of bits that hold the exponent. -/
def exponentBits : Precision → Nat
  | single => 8
  | double => 11

/-- The number of bits that hold the fraction. -/
def fractionBits : Precision → Nat
  | single => 23
  | double => 52

/-- The number of bits apart from the sign. -/
def magnitudeBits (p : Precision) : Nat :=
  p.exponentBits + p.fractionBits

/-- The magnitude code of infinity: all exponent bits set, no fraction bit set. -/
def infinityCode (p : Precision) : Nat :=
  (2 ^ p.exponentBits - 1) * 2 ^ p.fractionBits

/-- The least positive magnitude is `2 ^ (-depth)`; every finite magnitude is a multiple of it. -/
def depth (p : Precision) : Nat :=
  2 ^ (p.exponentBits - 1) - 2 + p.fractionBits

/-- Infinity fits into the magnitude bits, so every smaller code does as well. -/
theorem infinityCode_lt (p : Precision) : p.infinityCode < 2 ^ p.magnitudeBits := by
  cases p <;> decide

end Precision

/-- **A floating-point number** of precision `p`: its sign and its magnitude code. -/
structure Binary (p : Precision) where
  /-- Whether the sign bit is set. -/
  negative : Bool
  /-- The bit pattern without the sign bit. -/
  code : Nat
  code_lt : code < 2 ^ p.magnitudeBits
  deriving DecidableEq

/-- A number of 32 bits. -/
abbrev Single := Binary .single

/-- A number of 64 bits. -/
abbrev Double := Binary .double

namespace Binary

variable {p : Precision}

/-- The number whose bit pattern is `n`; bits beyond the width are dropped. -/
def ofBits (p : Precision) (n : Nat) : Binary p where
  negative := n.testBit p.magnitudeBits
  code := n % 2 ^ p.magnitudeBits
  code_lt := Nat.mod_lt _ (Nat.two_pow_pos _)

/-- The bit pattern of a number. -/
def toBits (x : Binary p) : Nat :=
  (if x.negative then 2 ^ p.magnitudeBits else 0) + x.code

/-- The zero with sign bit `negative`. -/
def zero (negative : Bool) : Binary p :=
  ⟨negative, 0, Nat.two_pow_pos _⟩

/-- The infinity with sign bit `negative`. -/
def infinity (negative : Bool) : Binary p :=
  ⟨negative, p.infinityCode, p.infinityCode_lt⟩

/-- The quiet NaN with sign bit `negative` and an otherwise empty fraction. -/
def nan (negative : Bool) : Binary p where
  negative := negative
  code := p.infinityCode + 2 ^ (p.fractionBits - 1)
  code_lt := by cases p <;> decide

/-- A code above that of infinity is a NaN. -/
def isNaN (x : Binary p) : Bool :=
  decide (p.infinityCode < x.code)

/-- An infinity of either sign. -/
def isInfinite (x : Binary p) : Bool :=
  x.code == p.infinityCode

/-- Neither an infinity nor a NaN. -/
def isFinite (x : Binary p) : Bool :=
  decide (x.code < p.infinityCode)

/-- Reading back the bit pattern of a number gives the number. -/
theorem ofBits_toBits (x : Binary p) : ofBits p x.toBits = x := by
  obtain ⟨s, c, hc⟩ := x
  cases s
  · simp [ofBits, toBits, Nat.mod_eq_of_lt hc, Nat.testBit_lt_two_pow hc]
  · simp [ofBits, toBits, Nat.mod_eq_of_lt hc, Nat.testBit_two_pow_add_eq,
      Nat.testBit_lt_two_pow hc]

end Binary

end Haystack
