import Haystack.Binary.Units

/-!
# Rounding to the nearest code

To round a quotient `num / den` of units is to search for the code whose units lie nearest.

* `Precision.floorCode n` is the last code with at most `n` units (`units_floorCode`). It is computed
  from the bit length of `n`: the leading bits become the significand, and the number of dropped bits
  counts the exponent up.
* `Precision.nearestCode num den` compares twice the quotient with the sum of the units of that code
  and of the next one, and gives an exact tie to the even code. A magnitude is its own rounding
  (`nearestCode_units_mul`).

Rounding takes place in the range without a limit on exponents. Cut off at infinity afterwards, it is
the rule of the standard for overflow: a result is infinite when its rounded value, with unlimited
exponent, exceeds the largest finite magnitude.
-/

namespace Haystack.Precision

-- powers of natural numbers are those of the core library, also next to other power operations
attribute [local instance (high)] instPowNat

/-- The last code whose magnitude is at most `n` units. -/
def floorCode (p : Precision) (n : Nat) : Nat :=
  let dropped := n.log2 - p.fractionBits
  dropped * 2 ^ p.fractionBits + n / 2 ^ dropped

/-- **The code nearest to `num / den` units**, a tie going to the even code. -/
def nearestCode (p : Precision) (num den : Nat) : Nat :=
  let c := p.floorCode (num / den)
  let middle := (p.units c + p.units (c + 1)) * den
  if 2 * num < middle then c
  else if middle < 2 * num then c + 1
  else if c % 2 = 0 then c
  else c + 1

/-- The magnitude of the last code that does not exceed `n` units, and of the next. -/
theorem units_floorCode (p : Precision) (n : Nat) :
    p.units (p.floorCode n) ≤ n ∧ n < p.units (p.floorCode n + 1) := by
  by_cases hsmall : n < 2 * 2 ^ p.fractionBits
  · -- nothing is dropped
    have hk : n.log2 - p.fractionBits = 0 := by
      by_cases h0 : n = 0
      · simp [h0]
      · have : n.log2 < p.fractionBits + 1 := (Nat.log2_lt h0).2 (by rw [Nat.pow_succ]; omega)
        omega
    -- read as fields, the code has exponent `k + 2` and the quotient less its leading one
    have hc : p.floorCode n = n := by simp [floorCode, hk]
    have hn := units_of_lt hsmall
    have hs := p.units_succ n
    have := Nat.two_pow_pos (n / 2 ^ p.fractionBits - 1)
    rw [hc]
    omega
  · -- the leading bits are the significand
    have h0 : n ≠ 0 := by
      have := p.fraction_pos
      omega
    obtain ⟨k, hk⟩ : ∃ k, n.log2 = p.fractionBits + (k + 1) := by
      have : ¬n.log2 < p.fractionBits + 1 := fun h => hsmall (by
        have := (Nat.log2_lt h0).1 h
        rw [Nat.pow_succ] at this
        omega)
      exact ⟨n.log2 - p.fractionBits - 1, by omega⟩
    -- `n` lies between two powers of two, so its quotient has just the bits of a significand
    have hlow : 2 ^ p.fractionBits * 2 ^ (k + 1) ≤ n := by
      rw [← Nat.pow_add, ← hk]
      exact Nat.log2_self_le h0
    have hhigh : n < 2 * 2 ^ p.fractionBits * 2 ^ (k + 1) := by
      have := Nat.lt_log2_self (n := n)
      rw [hk, Nat.pow_succ, Nat.pow_add] at this
      grind
    have hdiv := Nat.div_add_mod n (2 ^ (k + 1))
    have hmod := Nat.mod_lt n (Nat.two_pow_pos (k + 1))
    have hq : 2 ^ p.fractionBits ≤ n / 2 ^ (k + 1) :=
      (Nat.le_div_iff_mul_le (Nat.two_pow_pos _)).2 hlow
    have hq' : n / 2 ^ (k + 1) < 2 * 2 ^ p.fractionBits :=
      (Nat.div_lt_iff_lt_mul (Nat.two_pow_pos _)).2 hhigh
    have hc : p.floorCode n =
        (k + 2) * 2 ^ p.fractionBits + (n / 2 ^ (k + 1) - 2 ^ p.fractionBits) := by
      simp only [floorCode, hk, Nat.add_sub_cancel_left, Nat.add_mul]
      omega
    have hu : p.units (p.floorCode n) = n / 2 ^ (k + 1) * 2 ^ (k + 1) := by
      rw [hc, units_add (by omega), if_neg (by omega), show k + 2 - 1 = k + 1 by omega,
        Nat.add_sub_of_le hq]
    have hexp : p.floorCode n / 2 ^ p.fractionBits - 1 = k + 1 := by
      rw [hc, Nat.mul_comm, Nat.mul_add_div p.fraction_pos, Nat.div_eq_of_lt (by omega)]
      omega
    -- the step to the next code is the divisor, and a remainder is less than the divisor
    rw [units_succ, hu, hexp]
    rw [Nat.mul_comm] at hdiv
    omega

/-- The search for the units of a code finds the code. -/
theorem floorCode_units (p : Precision) (c : Nat) : p.floorCode (p.units c) = c := by
  obtain ⟨hle, hlt⟩ := p.units_floorCode (p.units c)
  have h1 := units_lt_units_iff.1 hlt
  have h2 : ¬c < p.floorCode (p.units c) := fun h => Nat.not_lt.2 hle (units_lt_units h)
  -- neither a later code nor an earlier one has its place between the same neighbours
  omega

/-- **A magnitude is its own rounding.** -/
theorem nearestCode_units_mul (p : Precision) (c : Nat) {den : Nat} (h : 0 < den) :
    p.nearestCode (p.units c * den) den = c := by
  have hd : p.units c * den / den = p.units c := Nat.mul_div_cancel _ h
  have hm : 2 * (p.units c * den) < (p.units c + p.units (c + 1)) * den := by
    rw [← Nat.mul_assoc]
    exact Nat.mul_lt_mul_of_pos_right (by have := p.units_lt_succ c; omega) h
  -- twice the quotient is below the middle, since the next code has more units
  simp only [nearestCode, hd, floorCode_units, hm, if_true]

/-- Nothing rounds to nothing. -/
theorem nearestCode_zero (p : Precision) {den : Nat} (h : 0 < den) : p.nearestCode 0 den = 0 := by
  have hf : p.floorCode 0 = 0 := by simp [floorCode]
  have h0 : p.units 0 = 0 := by simp [units]
  have h1 : p.units 1 = 1 := by cases p <;> decide
  simp [nearestCode, hf, h0, h1, h]

end Haystack.Precision
