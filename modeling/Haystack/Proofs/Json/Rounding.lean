import Haystack.Proofs.Decimal.Nearest
import Haystack.Proofs.Json.Number

/-!
# The numbers that numerals round to

A numeral with a fraction or an exponent is read as the nearest floating-point number, and only the first
768 of its significant digits are looked at for that. **They are enough** (`isNearestCode_magnitude`): the
middle of two neighbouring magnitudes is a number of at most 767 digits, or more exactly a multiple of a
power of ten so large that none lies strictly between two numbers that differ by one in their 768th
digit (`middle_le_or_le`). So all numerals with the same first 768 digits are on the same side of every
middle, and the digit `1` that stands for what follows is on that side, too.

The exception is a numeral that *is* the middle, with nothing but zeros after its 768th digit. Had they
not been written, it would be read as the even one of the two magnitudes around it. As they are there,
the `1` takes their place, and the numeral is read as the larger one (`tie`).

With that it is settled which number is read from a numeral: an integer that fits into 64 bits if it is
one (`ofNumeral?_eq_integer_iff`), and as a floating-point number the one that the numeral rounds to, if
that is finite (`roundsTo_iff`). Whether it is does not depend on ties (`exists_roundsTo_iff`).
-/

namespace Haystack

/-! ### Zeros at either end -/

namespace Digit

variable {ds : List Digit}

/-- The first digit counts most. -/
theorem toNat_cons (d : Digit) (ds : List Digit) :
    toNat (d :: ds) = d.val * 10 ^ ds.length + toNat ds := by
  have hsingle : toNat [d] = d.val := Nat.zero_add d.val
  have h := toNat_append [d] ds
  rwa [hsingle] at h

/-- Digits write a number below the power of ten with as many zeros. -/
theorem toNat_lt (ds : List Digit) : toNat ds < 10 ^ ds.length := by
  induction ds with
  | nil => exact Nat.one_pos
  | cons d ds ih =>
    -- the first digit is at most `9`, and the others fall short of one more
    have hd : (d.val + 1) * 10 ^ ds.length ≤ 10 * 10 ^ ds.length := Nat.mul_le_mul_right _ d.isLt
    rw [toNat_cons, List.length_cons, Nat.pow_succ]
    rw [Nat.succ_mul] at hd
    omega

/-- Zeros in front make no difference to the number. -/
theorem toNat_dropWhile_zero (ds : List Digit) : toNat (ds.dropWhile (· == zero)) = toNat ds := by
  induction ds with
  | nil => rfl
  | cons d ds ih =>
    rw [List.dropWhile_cons]
    split
    · next hzero =>
      have hval : d.val = 0 := congrArg Fin.val (eq_of_beq hzero)
      rw [ih, toNat_cons, hval, Nat.zero_mul, Nat.zero_add]
    · rfl

/-- Digits that start with something other than a zero write a number that needs them all. -/
theorem pow_length_le_toNat {d : Digit} (hd : d ≠ zero) (ds : List Digit) :
    10 ^ ds.length ≤ toNat (d :: ds) := by
  have hpos : 1 ≤ d.val := Nat.one_le_iff_ne_zero.2 fun h => hd (Fin.ext h)
  have hlead := Nat.mul_le_mul_right (10 ^ ds.length) hpos
  rw [toNat_cons]
  omega

end Digit

namespace Json.Number

variable {n : Numeral}

/-- What is left out at the end of a fraction is zeros. -/
theorem exists_append_zeros (ds : List Digit) :
    ∃ k, ds = withoutTrailingZeros ds ++ List.replicate k Digit.zero := by
  refine ⟨(ds.reverse.takeWhile (· == Digit.zero)).length, ?_⟩
  have hzeros : ds.reverse.takeWhile (· == Digit.zero)
      = List.replicate (ds.reverse.takeWhile (· == Digit.zero)).length Digit.zero :=
    List.eq_replicate_iff.2 ⟨rfl, fun d hd => eq_of_beq (List.all_eq_true.1 List.all_takeWhile d hd)⟩
  -- seen from the end, the zeros come first
  rw [← List.reverse_replicate, ← hzeros, withoutTrailingZeros, ← List.reverse_append,
    List.takeWhile_append_dropWhile, List.reverse_reverse]

/-- The exponent of the last significant digit. -/
def significantExponent (n : Numeral) : Int :=
  n.exponent.getD 0 - (withoutTrailingZeros n.fraction).length

/-- **The significant digits have the value of the numeral.** -/
theorem toRat_eq_significantDigits (n : Numeral) :
    n.toDecimal.toRat = Digit.toNat (significantDigits n) * 10 ^ significantExponent n := by
  obtain ⟨k, hk⟩ := exists_append_zeros n.fraction
  rw [significantDigits, Digit.toNat_dropWhile_zero, significantExponent, Numeral.toRat_toDecimal]
  generalize withoutTrailingZeros n.fraction = fraction at hk
  rw [hk, ← List.append_assoc, Digit.toNat_append _ (List.replicate k _),
    Digit.toNat_replicate_zero, Nat.add_zero, List.length_append, List.length_replicate]
  -- each zero that is left out raises the exponent by one
  have hexp : n.exponent.getD 0 - (fraction.length : ℤ)
      = k + (n.exponent.getD 0 - (fraction.length + k : ℕ)) := by
    push_cast
    ring
  rw [hexp, zpow_add₀ (by norm_num), zpow_natCast]
  push_cast
  ring

/-- The significant digits do not start with a zero. -/
theorem head?_significantDigits_ne (n : Numeral) :
    (significantDigits n).head? ≠ some Digit.zero := by
  intro hzero
  have hhead := List.head?_dropWhile_not (· == Digit.zero)
    (n.whole ++ withoutTrailingZeros n.fraction)
  rw [significantDigits] at hzero
  rw [hzero] at hhead
  exact absurd hhead (by decide)

/-! ### Middles have few digits -/

/-- Twice the middle of two neighbours is a short multiple of a power of two. -/
theorem exists_middle_eq (c : Nat) :
    ∃ m g, m < 2 ^ 54 ∧ Precision.units .double c + Precision.units .double (c + 1) = m * 2 ^ g := by
  obtain ⟨m, hm, hunits⟩ := Precision.units_eq_mul_gap .double c
  refine ⟨2 * m + 1, c / 2 ^ Precision.fractionBits .double - 1, ?_, ?_⟩
  · -- an odd number of half steps, and fewer than `2 ^ 54` of them
    have hm' : m < 2 * 2 ^ 52 := hm
    omega
  · rw [Precision.units_succ, hunits]
    ring

/-- A number of 768 digits is beyond all middles. -/
theorem middle_le_of_pow_le {c a : Nat} (hc : c < Precision.infinityCode .double)
    (ha : 10 ^ (digitLimit - 1) ≤ a) :
    (Precision.units .double c + Precision.units .double (c + 1) : ℚ)
      ≤ a * 2 ^ (Precision.depth .double + 1) := by
  have hlower := Precision.double.cast_units_le hc.le
  have hupper := Precision.double.cast_units_le (Nat.succ_le_of_lt hc)
  -- the power of two that infinity stands for has fewer digits than that
  have hrange : 2 ^ 2 ^ (Precision.exponentBits .double - 1) ≤ a :=
    (show 2 ^ 2 ^ (Precision.exponentBits .double - 1) ≤ 10 ^ (digitLimit - 1) by
      decide +kernel).trans ha
  rw [Decimal.units_infinityCode_eq] at hlower hupper
  calc (Precision.units .double c + Precision.units .double (c + 1) : ℚ)
      ≤ 2 ^ 2 ^ (Precision.exponentBits .double - 1) * 2 ^ (Precision.depth .double + 1) := by
        rw [pow_succ]
        linarith
    _ ≤ a * 2 ^ (Precision.depth .double + 1) :=
        mul_le_mul_of_nonneg_right (by exact_mod_cast hrange) (by positivity)

/-- On the grid of the power of ten with exponent `-j`, a middle is a point of the grid if `j` is large,
and if `j` is small it does not have as many digits. -/
theorem middle_mul_pow_le_or_le (c : Nat) {a : Nat} (ha : 10 ^ (digitLimit - 1) ≤ a) (j : Nat) :
    (Precision.units .double c + Precision.units .double (c + 1)) * 10 ^ j
        ≤ a * 2 ^ (Precision.depth .double + 1)
      ∨ (a + 1) * 2 ^ (Precision.depth .double + 1)
        ≤ (Precision.units .double c + Precision.units .double (c + 1)) * 10 ^ j := by
  have hfew : 2 ^ 54 * 5 ^ Precision.depth .double ≤ 2 * 10 ^ (digitLimit - 1) := by decide +kernel
  obtain ⟨m, g, hm, hmiddle⟩ := exists_middle_eq c
  have hten : m * 2 ^ g * 10 ^ j = m * 5 ^ j * 2 ^ (g + j) := by
    rw [Nat.pow_add, show 10 = 5 * 2 by rfl, Nat.mul_pow]
    ring
  rw [hmiddle, hten]
  generalize Precision.depth .double = depth at hfew ⊢
  rcases Nat.lt_or_ge depth (g + j) with hlarge | hsmall
  · -- the middle is a multiple of the step of the grid
    obtain ⟨i, hi⟩ := Nat.exists_eq_add_of_le (show depth + 1 ≤ g + j from hlarge)
    have hpoint : m * 5 ^ j * 2 ^ (g + j) = m * 5 ^ j * 2 ^ i * 2 ^ (depth + 1) := by
      rw [hi]
      ring
    rw [hpoint]
    exact (Nat.lt_or_ge a (m * 5 ^ j * 2 ^ i)).symm.imp (Nat.mul_le_mul_right _)
      (Nat.mul_le_mul_right _)
  · -- the middle has fewer digits than the number
    left
    have hfive : 5 ^ j ≤ 5 ^ depth := Nat.pow_le_pow_right (by decide) (by omega)
    have htwo : 2 ^ (g + j) ≤ 2 ^ depth := Nat.pow_le_pow_right Nat.two_pos hsmall
    calc m * 5 ^ j * 2 ^ (g + j) ≤ 2 ^ 54 * 5 ^ depth * 2 ^ depth :=
          Nat.mul_le_mul (Nat.mul_le_mul hm.le hfive) htwo
      _ ≤ 2 * a * 2 ^ depth :=
          Nat.mul_le_mul_right _ (hfew.trans (Nat.mul_le_mul_left 2 ha))
      _ = a * 2 ^ (depth + 1) := by ring

/-- **No middle lies strictly between two numbers that differ by one in the 768th digit.** -/
theorem middle_le_or_le {c a : Nat} (hc : c < Precision.infinityCode .double)
    (ha : 10 ^ (digitLimit - 1) ≤ a) (e : Int) :
    (Precision.units .double c + Precision.units .double (c + 1) : ℚ)
        ≤ 2 * (a * 10 ^ e * 2 ^ Precision.depth .double)
      ∨ 2 * ((a + 1) * 10 ^ e * 2 ^ Precision.depth .double)
        ≤ (Precision.units .double c + Precision.units .double (c + 1) : ℚ) := by
  have hdouble (q : ℚ) : 2 * (q * 2 ^ Precision.depth .double)
      = q * 2 ^ (Precision.depth .double + 1) := by
    ring
  rw [hdouble, hdouble]
  rcases Int.le_total 0 e with hpos | hneg
  · -- the digits are all before the point
    left
    have hscale : (a : ℚ) ≤ a * 10 ^ e :=
      le_mul_of_one_le_right (Nat.cast_nonneg a) (one_le_zpow₀ (by norm_num) hpos)
    calc (Precision.units .double c + Precision.units .double (c + 1) : ℚ)
        ≤ a * 2 ^ (Precision.depth .double + 1) := middle_le_of_pow_le hc ha
      _ ≤ a * 10 ^ e * 2 ^ (Precision.depth .double + 1) :=
        mul_le_mul_of_nonneg_right hscale (by positivity)
  · -- cleared of the power of ten, all sides are natural numbers
    obtain ⟨j, rfl⟩ := Int.exists_eq_neg_ofNat hneg
    rw [zpow_neg, zpow_natCast]
    have hscale : (0 : ℚ) < 10 ^ j := by positivity
    have hclear (b : ℚ) : b * (10 ^ j)⁻¹ * 2 ^ (Precision.depth .double + 1)
        = b * 2 ^ (Precision.depth .double + 1) / 10 ^ j := by
      rw [div_eq_mul_inv]
      ring
    rw [hclear, hclear, le_div_iff₀ hscale, div_le_iff₀ hscale]
    exact_mod_cast middle_mul_pow_le_or_le c ha j

/-! ### The first digits decide -/

/-- Where a tie goes that the digits of a numeral make: to the even magnitude, as long as all of them
are looked at. -/
def tie (n : Numeral) : Tie :=
  if (significantDigits n).length ≤ digitLimit then .toEven else .up

/-- The first digits of a numeral, those that are looked at, as a number. -/
def leading (n : Numeral) : Nat :=
  Digit.toNat ((significantDigits n).take digitLimit)

/-- If all 768 digits are there, the first of them is none of the zeros that were left out. -/
theorem pow_le_leading (h : digitLimit ≤ (significantDigits n).length) :
    10 ^ (digitLimit - 1) ≤ leading n := by
  have hhead := head?_significantDigits_ne n
  unfold leading
  generalize significantDigits n = ds at h hhead
  cases ds with
  | nil => exact absurd h (by decide)
  | cons d ds =>
    have hd : d ≠ Digit.zero := fun hzero => hhead (congrArg some hzero)
    have htake : (d :: ds).take digitLimit = d :: ds.take (digitLimit - 1) := rfl
    have hlength : (ds.take (digitLimit - 1)).length = digitLimit - 1 := by
      rw [List.length_take]
      exact Nat.min_eq_left (Nat.pred_le_pred h)
    have hpow := Digit.pow_length_le_toNat hd (ds.take (digitLimit - 1))
    rwa [hlength, ← htake] at hpow

/-- **A numeral of many digits lies between its first 768 digits and the number after them**, and what
is made of it lies strictly between. -/
theorem between_leading {k : Nat} (h : (significantDigits n).length = digitLimit + (k + 1)) :
    leading n * (10 : ℚ) ^ (significantExponent n + (k + 1 : ℕ)) ≤ n.toDecimal.toRat
      ∧ n.toDecimal.toRat < (leading n + 1) * (10 : ℚ) ^ (significantExponent n + (k + 1 : ℕ))
      ∧ leading n * (10 : ℚ) ^ (significantExponent n + (k + 1 : ℕ)) < (magnitude n).toRat
      ∧ (magnitude n).toRat
        < (leading n + 1) * (10 : ℚ) ^ (significantExponent n + (k + 1 : ℕ)) := by
  -- what is made of the numeral: its first digits, and a `1` in the next place
  have hmagnitude : magnitude n = ⟨10 * leading n + 1, significantExponent n + k⟩ := by
    have hlong : ¬(significantDigits n).length ≤ digitLimit := by omega
    have hcount : (significantDigits n).length - digitLimit - 1 = k := by omega
    rw [magnitude, if_neg hlong, hcount, Digit.toNat_append_singleton]
    rfl
  have hothers : ((significantDigits n).drop digitLimit).length = k + 1 := by
    rw [List.length_drop]
    omega
  -- the numeral itself: its first digits and the others, which do not make one step of the first
  have hsplit : Digit.toNat (significantDigits n) = leading n * 10 ^ (k + 1)
      + Digit.toNat ((significantDigits n).drop digitLimit) := by
    rw [leading, ← hothers, ← Digit.toNat_append, List.take_append_drop]
  have hrest : Digit.toNat ((significantDigits n).drop digitLimit) < 10 ^ (k + 1) :=
    hothers ▸ Digit.toNat_lt _
  have hrest' : (Digit.toNat ((significantDigits n).drop digitLimit) : ℚ) < 10 ^ (k + 1) := by
    exact_mod_cast hrest
  have hfine : (0 : ℚ) < 10 ^ significantExponent n := Decimal.ten_zpow_pos _
  rw [hmagnitude, toRat_eq_significantDigits, hsplit, Decimal.toRat, zpow_add₀ (by norm_num),
    zpow_add₀ (by norm_num), zpow_natCast, zpow_natCast]
  -- all four comparisons are linear in the step of the last digit
  generalize (10 : ℚ) ^ significantExponent n = step at hfine ⊢
  generalize Digit.toNat ((significantDigits n).drop digitLimit) = others at hrest' ⊢
  have hmore : 0 ≤ others * step := mul_nonneg (Nat.cast_nonneg others) hfine.le
  have hless : others * step < 10 ^ (k + 1) * step := mul_lt_mul_of_pos_right hrest' hfine
  have hstep : 0 < step * 10 ^ k := by positivity
  rw [pow_succ] at hless
  push_cast
  rw [pow_succ]
  refine ⟨?_, ?_, ?_, ?_⟩ <;> linarith

/-- **The magnitude that a numeral is looked at as is as near to the same magnitudes.** -/
theorem isNearestCode_magnitude (n : Numeral) :
    Precision.double.IsNearestCode (tie n) (n.toDecimal.toRat * 2 ^ Precision.depth .double)
      ((magnitude n).code .double) := by
  have hread := Decimal.isNearestCode_code .double (magnitude n)
  rcases Nat.lt_or_ge digitLimit (significantDigits n).length with hlong | hshort
  · -- both numbers lie between the first digits and the number after them, and so does no middle
    obtain ⟨k, hk⟩ := Nat.exists_eq_add_of_le (Nat.succ_le_of_lt hlong)
    obtain ⟨hbelow, habove, hbelow', habove'⟩ := between_leading (hk.trans (Nat.succ_add_eq_add_succ _ _))
    have hdigits := pow_le_leading hlong.le
    rw [tie, if_neg (Nat.not_le.2 hlong)]
    generalize significantExponent n + (k + 1 : ℕ) = e at *
    have hscale {x y : ℚ} (h : x ≤ y) : 2 * (x * 2 ^ Precision.depth .double)
        ≤ 2 * (y * 2 ^ Precision.depth .double) := by gcongr
    have hscale' {x y : ℚ} (h : x < y) : 2 * (x * 2 ^ Precision.depth .double)
        < 2 * (y * 2 ^ Precision.depth .double) := by gcongr
    refine .of_middles hread.le_infinityCode (fun d hd => ?_) fun hc => ?_
    · -- the lower middle is before the upper one of the two numbers, hence before both
      rw [← hd] at hread ⊢
      have hmiddle := hread.lower.1.trans_lt (hscale' habove')
      exact ⟨((middle_le_or_le hread.le_infinityCode hdigits e).resolve_right
        (not_le.2 hmiddle)).trans (hscale hbelow), fun _ => Nat.lt_succ_self d⟩
    · -- the upper middle is behind the lower one, hence behind both
      have hmiddle := (hscale' hbelow').trans_le (hread.upper hc).1
      have hafter := (hscale' habove).trans_le
        ((middle_le_or_le hc hdigits e).resolve_left (not_le.2 hmiddle))
      exact ⟨hafter.le, fun heq => absurd heq hafter.ne⟩
  · -- nothing is left out
    have hexact : magnitude n = n.toDecimal := by rw [magnitude, if_pos hshort]
    rw [hexact] at hread ⊢
    rw [tie, if_pos hshort]
    exact hread

/-! ### Integers and floating-point numbers -/

/-- **The floating-point number that a numeral rounds to**: of its sign, finite and the nearest one. -/
structure RoundsTo (n : Numeral) (x : Double) : Prop where
  negative_eq : x.negative = n.negative
  isFinite : x.isFinite = true
  nearest : Precision.double.IsNearestCode (tie n)
    (n.toDecimal.toRat * 2 ^ Precision.depth .double) x.code

/-- **What a numeral rounds to is what is made of its sign and its first digits**, if that is finite. -/
theorem roundsTo_iff_eq_ofDecimal {x : Double} : RoundsTo n x
    ↔ x.isFinite = true ∧ x = Binary.ofDecimal n.negative (magnitude n) := by
  constructor
  · rintro ⟨hsign, hfinite, hnearest⟩
    refine ⟨hfinite, ?_⟩
    have hcode : x.code = (magnitude n).code .double :=
      hnearest.unique (isNearestCode_magnitude n)
    cases x
    simp only [Binary.ofDecimal, ← hsign, ← hcode]
  · rintro ⟨hfinite, rfl⟩
    exact ⟨rfl, hfinite, isNearestCode_magnitude n⟩

/-- **A numeral that is written as an integer**: with nothing behind its digits, and not `-0`. -/
structure IsInteger (n : Numeral) (i : Int) : Prop where
  fraction_eq : n.fraction = []
  exponent_eq : n.exponent = none
  natAbs_eq : i.natAbs = Digit.toNat n.whole
  negative_iff : n.negative = true ↔ i < 0

/-- A numeral is whole if nothing stands behind its digits. -/
theorem isWhole_iff : n.isWhole = true ↔ n.fraction = [] ∧ n.exponent = none := by
  rw [Numeral.isWhole, Bool.and_eq_true, List.isEmpty_iff, Option.isNone_iff_eq_none]

/-- **Integers are those of 64 bits**, unsigned or signed. -/
theorem integer?_eq_some_iff {i : Int} :
    integer? n = some i ↔ IsInteger n i ∧ -2 ^ 63 ≤ i ∧ i < 2 ^ 64 := by
  constructor
  · intro h
    unfold integer? at h
    dsimp only at h
    split at h
    · next hwhole =>
      obtain ⟨hfraction, hexponent⟩ := isWhole_iff.1 hwhole
      split at h
      · next hsign =>
        split at h
        · cases h
          exact ⟨⟨hfraction, hexponent, by omega, iff_of_true hsign (by omega)⟩, by omega, by omega⟩
        · cases h
      · next hsign =>
        split at h
        · cases h
          exact ⟨⟨hfraction, hexponent, by omega, iff_of_false hsign (by omega)⟩, by omega, by omega⟩
        · cases h
    · cases h
  · rintro ⟨⟨hfraction, hexponent, hnatAbs, hsign⟩, hlow, hhigh⟩
    rw [integer?, if_pos (isWhole_iff.2 ⟨hfraction, hexponent⟩), ← hnatAbs]
    split
    · next hneg =>
      -- a signed integer of 64 bits
      have hi := hsign.1 hneg
      rw [if_pos (by omega), Option.some_inj]
      omega
    · next hpos =>
      -- an unsigned one
      have hi : ¬i < 0 := fun h => hpos (hsign.2 h)
      rw [if_pos (by omega), Option.some_inj]
      omega

/-- **A numeral is read as an integer if it is one of 64 bits**, and not otherwise. -/
theorem ofNumeral?_eq_integer_iff {i : Int} :
    ofNumeral? n = some (.integer i) ↔ IsInteger n i ∧ -2 ^ 63 ≤ i ∧ i < 2 ^ 64 := by
  rw [← integer?_eq_some_iff, ofNumeral?]
  split
  · next j hj =>
    rw [hj]
    simp
  · next hnone =>
    dsimp only
    -- what is no integer is read as a floating-point number or not at all
    split <;> simp [hnone]

/-- The digits of an integer of 64 bits are all looked at. -/
theorem magnitude_of_integer? {i : Int} (h : integer? n = some i) : magnitude n = ⟨i.natAbs, 0⟩ := by
  obtain ⟨⟨hfraction, hexponent, hnatAbs, -⟩, -, -⟩ := integer?_eq_some_iff.1 h
  -- without a fraction the significant digits are those of the integer
  have hvalue : Digit.toNat (significantDigits n) = i.natAbs := by
    rw [significantDigits, Digit.toNat_dropWhile_zero, hfraction, hnatAbs]
    exact congrArg Digit.toNat (List.append_nil _)
  have hhead := head?_significantDigits_ne n
  -- a number below `2 ^ 64` has at most twenty digits
  have hdigits : (significantDigits n).length ≤ digitLimit := by
    cases hds : significantDigits n with
    | nil => exact Nat.zero_le _
    | cons d ds =>
      rw [hds] at hvalue hhead
      have hpow := Digit.pow_length_le_toNat (fun hzero => hhead (congrArg some hzero)) ds
      have hsmall : 10 ^ ds.length < 10 ^ 20 :=
        lt_of_le_of_lt (hvalue ▸ hpow) ((natAbs_lt_of_integer? h).trans (by decide))
      have hlength : ds.length < 20 := (Nat.pow_lt_pow_iff_right (by decide)).1 hsmall
      exact (Nat.succ_le_of_lt hlength).trans (by decide)
  rw [magnitude, if_pos hdigits, Numeral.toDecimal, hfraction, hexponent, List.append_nil, ← hnatAbs]
  rfl

/-- An integer is the same floating-point number, whether it is read as one or not. -/
theorem toDouble_integer {i : Int} (h : integer? n = some i) :
    (Number.integer i).toDouble = Binary.ofDecimal n.negative (magnitude n) := by
  have hsign : decide (i < 0) = n.negative := by
    rw [Bool.eq_iff_iff, decide_eq_true_iff]
    exact (integer?_eq_some_iff.1 h).1.negative_iff.symm
  rw [toDouble, hsign, magnitude_of_integer? h]

/-- **What is read as a floating-point number is what the numeral rounds to.** -/
theorem roundsTo_iff {x : Double} :
    RoundsTo n x ↔ ∃ r, ofNumeral? n = some r ∧ r.toDouble = x := by
  rw [roundsTo_iff_eq_ofDecimal, ofNumeral?]
  split
  · next i hi =>
    -- an integer is finite, and as a floating-point number it is what its digits make
    have hfinite := isFinite_toDouble_integer (natAbs_lt_of_integer? hi)
    rw [← toDouble_integer hi]
    constructor
    · rintro ⟨-, rfl⟩
      exact ⟨_, rfl, rfl⟩
    · rintro ⟨_, ⟨⟩, rfl⟩
      exact ⟨hfinite, rfl⟩
  · dsimp only
    constructor
    · rintro ⟨hfinite, rfl⟩
      exact ⟨_, if_pos hfinite, rfl⟩
    · rintro ⟨r, hr, rfl⟩
      split at hr
      · next hfinite =>
        cases hr
        exact ⟨hfinite, rfl⟩
      · cases hr

/-- **Whether a numeral rounds to a finite number** is decided by its value alone, whatever rule there is
for ties: it has to be before the middle of the largest finite magnitude and that of infinity. -/
theorem exists_roundsTo_iff : (∃ x, RoundsTo n x)
    ↔ 2 * (n.toDecimal.toRat * 2 ^ Precision.depth .double)
      < Precision.units .double (Precision.infinityCode .double - 1)
        + Precision.units .double (Precision.infinityCode .double) := by
  obtain ⟨top, htop⟩ : ∃ top, Precision.infinityCode .double = top + 1 :=
    Nat.exists_eq_succ_of_ne_zero (by decide)
  -- the code of infinity is even, so that of the largest finite magnitude is odd
  have hodd : top % 2 ≠ 0 := by
    have heven : Precision.infinityCode .double % 2 = 0 := by decide
    omega
  rw [htop, Nat.add_sub_cancel]
  constructor
  · rintro ⟨x, -, hfinite, hnearest⟩
    have hcode : x.code < Precision.infinityCode .double := of_decide_eq_true hfinite
    obtain ⟨hmiddle, htie⟩ := hnearest.upper hcode
    have hc : x.code ≤ top := by omega
    have hlower := Precision.double.cast_units_le hc
    have hupper := Precision.double.cast_units_le (Nat.succ_le_succ hc)
    refine lt_of_le_of_ne (by linarith) fun heq => ?_
    -- in the middle, the largest finite magnitude is not taken
    have hlast : x.code = top := le_antisymm hc (Precision.units_le_units_iff.1
      (Nat.cast_le.1 (by linarith : (Precision.units .double top : ℚ) ≤ Precision.units .double x.code)))
    rw [hlast] at htie
    have htakes := htie heq
    cases hn : tie n with
    | up =>
      rw [hn] at htakes
      exact Nat.not_succ_lt_self htakes
    | toEven =>
      rw [hn] at htakes
      exact hodd htakes
  · intro hbefore
    -- before the middle infinity is not the nearest one
    have hnearest := isNearestCode_magnitude n
    have hfinite : (magnitude n).code .double < Precision.infinityCode .double := by
      refine lt_of_le_of_ne hnearest.le_infinityCode fun hinf => ?_
      rw [hinf, htop] at hnearest
      exact absurd hnearest.lower.1 (not_le.2 hbefore)
    exact ⟨Binary.ofDecimal n.negative (magnitude n), rfl, decide_eq_true hfinite, hnearest⟩

end Json.Number

end Haystack
