import Haystack.Json.Number
import Haystack.Proofs.Decimal.Numeral

/-!
# Numbers keep their value in JSON

The reader of numbers takes a numeral for an integer if it is written as one and fits into 64 bits, and
looks at the first 768 digits of any other numeral only. Neither gets in the way of what is written
here: an integer of 64 bits is written with nothing behind it and fits, and a finite floating-point
number is never written as an integer and has few digits. So both are read as what they were
(`ofNumeral?_ofInt`, `ofNumeral?_ofBinary`).

For a text that was written elsewhere there is no telling how its numbers are spelled, but whatever is
read is finite as a floating-point number (`isFinite_of_ofNumeral?`).
-/

namespace Haystack.Json.Number

variable {n : Numeral}

/-- **A numeral of few digits is read exactly.** -/
theorem magnitude_eq_toDecimal (h : (n.whole ++ n.fraction).length ≤ digitLimit) :
    magnitude n = n.toDecimal := by
  have hzeros : (withoutTrailingZeros n.fraction).length ≤ n.fraction.length := by
    rw [withoutTrailingZeros, List.length_reverse, ← n.fraction.length_reverse]
    exact (List.dropWhile_sublist _).length_le
  -- leading zeros and those at the end of the fraction are left out, so there are even fewer
  have hdigits : (significantDigits n).length ≤ digitLimit := by
    refine (List.dropWhile_sublist _).length_le.trans ?_
    rw [List.length_append] at h ⊢
    omega
  rw [magnitude, if_pos hdigits]

/-- A numeral with a fraction or an exponent is not taken for an integer. -/
theorem integer?_of_isWhole_eq_false (h : n.isWhole = false) : integer? n = none := by
  rw [integer?, if_neg (by simp [h])]

/-- **An integer of 64 bits is read as itself.** -/
theorem ofNumeral?_ofInt {i : Int} (hlow : -2 ^ 63 ≤ i) (hhigh : i < 2 ^ 64) :
    ofNumeral? (Numeral.ofInt i) = some (.integer i) := by
  have hwhole : (Numeral.ofInt i).isWhole = true := rfl
  have hmagnitude : Digit.toNat (Numeral.ofInt i).whole = i.natAbs := Numeral.toNat_digitsOfNat _
  have hinteger : integer? (Numeral.ofInt i) = some i := by
    simp only [integer?, hwhole, if_true, hmagnitude]
    split
    · next hsign =>
      -- a minus sign is written for a negative integer, which has to fit as a signed one
      have hneg : i < 0 := of_decide_eq_true hsign
      rw [if_pos (by omega), Option.some_inj]
      omega
    · next hsign =>
      -- without a sign it has to fit as an unsigned one
      have hpos : ¬i < 0 := of_decide_eq_false (Bool.eq_false_iff.2 hsign)
      rw [if_pos (by omega), Option.some_inj]
      omega
  rw [ofNumeral?, hinteger]

/-- **A finite floating-point number is read as itself**, the sign of a zero included. -/
theorem ofNumeral?_ofBinary {x : Double} (hx : x.isFinite) :
    ofNumeral? (Numeral.ofBinary .json x) = some (.float x) := by
  -- it has far fewer digits than are looked at
  have hdigits : magnitude (Numeral.ofBinary .json x) = (Numeral.ofBinary .json x).toDecimal :=
    magnitude_eq_toDecimal ((Numeral.length_ofBinary_json_le hx).trans (by decide))
  rw [ofNumeral?, integer?_of_isWhole_eq_false (Numeral.layout_ofBinary .json x).isWhole_json]
  dsimp only
  rw [hdigits, Numeral.ofDecimal_ofBinary .json hx, if_pos hx]

/-! ### What is read is finite -/

/-- An integer that is read is one of 64 bits. -/
theorem natAbs_lt_of_integer? {i : Int} (h : integer? n = some i) : i.natAbs < 2 ^ 64 := by
  unfold integer? at h
  dsimp only at h
  split at h
  · split at h
    · -- a signed integer, which has one bit less
      split at h
      · next hfits =>
        cases h
        omega
      · cases h
    · split at h
      · next hfits =>
        cases h
        exact hfits
      · cases h
  · cases h

/-- An integer of 64 bits is far below the magnitude of infinity. -/
theorem isFinite_toDouble_integer {i : Int} (h : i.natAbs < 2 ^ 64) :
    (integer i).toDouble.isFinite = true := by
  -- its exact value is at most `2 ^ 64`
  have hvalue : (⟨i.natAbs, 0⟩ : Decimal).toRat ≤ 2 ^ 64 := by
    rw [Decimal.toRat, zpow_zero, mul_one]
    exact_mod_cast h.le
  change decide (Decimal.code .double ⟨i.natAbs, 0⟩ < Precision.infinityCode .double) = true
  rw [decide_eq_true_eq]
  exact Decimal.code_lt_infinityCode (by decide) hvalue

/-- **Every number that is read is finite**: an integer fits into 64 bits, and other numbers are refused
if they are out of range. -/
theorem isFinite_of_ofNumeral? {x : Number} (h : ofNumeral? n = some x) :
    x.toDouble.isFinite = true := by
  unfold ofNumeral? at h
  split at h
  · next i hi =>
    cases h
    exact isFinite_toDouble_integer (natAbs_lt_of_integer? hi)
  · dsimp only at h
    split at h
    · next hfinite =>
      cases h
      exact hfinite
    · cases h

end Haystack.Json.Number
