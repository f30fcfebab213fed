import Haystack.Binary.Basic

/-!
# Magnitudes in units

Magnitudes are measured in **units**, the unit of a precision being its least positive magnitude. In
units every finite magnitude is a natural number, `Precision.units` of its code, and the order of codes
is the order of magnitudes (`units_lt_units_iff`), because the step from each code to the next is
positive (`units_succ`).

`Precision.units` is defined on all natural numbers. Past the code of infinity it continues the pattern
as if exponents had no limit, which is what the rounding of overflowing results refers to.
-/

namespace Haystack.Precision

-- powers of natural numbers are those of the core library, also next to other power operations
attribute [local instance (high)] instPowNat

/-- **The magnitude of a code, in units.** A code with empty exponent field is its own number of units;
otherwise the significand, with its leading one, is doubled once for each exponent above the first. -/
def units (p : Precision) (c : Nat) : Nat :=
  let exponent := c / 2 ^ p.fractionBits
  let fraction := c % 2 ^ p.fractionBits
  if exponent = 0 then fraction else (2 ^ p.fractionBits + fraction) * 2 ^ (exponent - 1)

/-- Both precisions have fraction bits, so a code can be split by dividing. -/
theorem fraction_pos (p : Precision) : 0 < 2 ^ p.fractionBits :=
  Nat.two_pow_pos _

/-- The magnitude of a code given by its exponent field and its fraction. -/
theorem units_add {p : Precision} {e f : Nat} (h : f < 2 ^ p.fractionBits) :
    p.units (e * 2 ^ p.fractionBits + f) =
      if e = 0 then f else (2 ^ p.fractionBits + f) * 2 ^ (e - 1) := by
  have hd : (e * 2 ^ p.fractionBits + f) / 2 ^ p.fractionBits = e := by
    rw [Nat.mul_comm, Nat.mul_add_div p.fraction_pos, Nat.div_eq_of_lt h, Nat.add_zero]
  have hm : (e * 2 ^ p.fractionBits + f) % 2 ^ p.fractionBits = f := by
    rw [Nat.mul_comm, Nat.mul_add_mod, Nat.mod_eq_of_lt h]
  -- the two fields are read back from the sum, whatever the fraction is
  simp only [units, hd, hm]

/-- **The step from a code to the next** doubles with each exponent above the first. -/
theorem units_succ (p : Precision) (c : Nat) :
    p.units (c + 1) = p.units c + 2 ^ (c / 2 ^ p.fractionBits - 1) := by
  have hc : c = c / 2 ^ p.fractionBits * 2 ^ p.fractionBits + c % 2 ^ p.fractionBits := by
    rw [Nat.mul_comm, Nat.div_add_mod]
  have hf : c % 2 ^ p.fractionBits < 2 ^ p.fractionBits := Nat.mod_lt _ p.fraction_pos
  -- from here on the code is its two fields, and nothing is known of them but that the fraction fits
  generalize c / 2 ^ p.fractionBits = e at *
  generalize c % 2 ^ p.fractionBits = f at *
  subst hc
  rw [units_add hf]
  by_cases hlast : f + 1 = 2 ^ p.fractionBits
  · -- the fraction is full: the next code opens the next exponent
    have hnext : e * 2 ^ p.fractionBits + f + 1 = (e + 1) * 2 ^ p.fractionBits + 0 := by
      rw [Nat.add_assoc, hlast, Nat.add_mul, Nat.one_mul, Nat.add_zero]
    rw [hnext, units_add p.fraction_pos]
    cases e with
    | zero => simp [← hlast]
    | succ e =>
      simp only [Nat.add_eq_zero_iff, Nat.one_ne_zero, and_false, if_false, Nat.add_sub_cancel,
        Nat.add_zero, Nat.pow_succ, ← hlast]
      grind
  · -- otherwise the fraction goes up by one, and with it the significand
    rw [Nat.add_assoc, units_add (by omega)]
    cases e with
    | zero => simp
    | succ e =>
      simp only [Nat.add_eq_zero_iff, Nat.one_ne_zero, and_false, if_false, Nat.add_sub_cancel]
      grind

/-- The next code has more units, as every step is a power of two. -/
theorem units_lt_succ (p : Precision) (c : Nat) : p.units c < p.units (c + 1) := by
  rw [units_succ]
  exact Nat.lt_add_of_pos_right (Nat.two_pow_pos _)

/-- **Codes are ordered as the magnitudes are.** -/
theorem units_lt_units {p : Precision} {c d : Nat} (h : c < d) : p.units c < p.units d := by
  induction h with
  | refl => exact p.units_lt_succ c
  | step _ ih => exact Nat.lt_trans ih (p.units_lt_succ _)

/-- Both ways: the code can be told from the order of the magnitudes. -/
theorem units_lt_units_iff {p : Precision} {c d : Nat} : p.units c < p.units d ↔ c < d := by
  refine ⟨fun h => Nat.lt_of_not_le fun hle => ?_, units_lt_units⟩
  rcases Nat.lt_or_eq_of_le hle with hlt | rfl
  · exact Nat.lt_asymm h (units_lt_units hlt)
  · exact Nat.lt_irrefl _ h

/-- The codes of the two lowest exponents are their own number of units: the first of them has no leading
one, and the second one has it at the place of the exponent bit. -/
theorem units_of_lt {p : Precision} {c : Nat} (h : c < 2 * 2 ^ p.fractionBits) : p.units c = c := by
  by_cases hc : c < 2 ^ p.fractionBits
  · have := units_add (e := 0) hc
    simpa using this
  · -- exponent one: the leading one of the significand is the exponent bit of the code
    have := units_add (p := p) (e := 1) (f := c - 2 ^ p.fractionBits) (by omega)
    rw [show 1 * 2 ^ p.fractionBits + (c - 2 ^ p.fractionBits) = c by omega] at this
    rw [this]
    simp
    omega

end Haystack.Precision
