import Haystack.Decimal.Shortest
import Haystack.Proofs.Decimal.Value
import Mathlib.Algebra.Order.AbsoluteValue.Basic

/-!
# The shortest decimal reads back

The search for the shortest decimal goes through seventeen grids, and what it finds on one of them reads
back by the test that was made. What has to be shown is that it does not get to the end of the grids
empty-handed, as the decimal that it would fall back on is long.

**Seventeen digits are enough**: the step of the last grid is at most `10 ^ (-16)` of the magnitude, and
the step from a code to a neighbour is at least `2 ^ (-53)` of it, which is more (`units_succ_lt_mul_gap`,
`code_eq_of_near`). So the grid is finer than the codes are, and the neighbour on the grid that is nearer
to the magnitude is not nearer to any other one.

* `exists_onGrid?_eq_shortest` — the shortest decimal is a hit on one of the grids.
* `code_shortest` and `coefficient_shortest_le` — hence it reads back, and it has few digits.
-/

namespace Haystack

namespace Precision

variable {p : Precision}

/-- **The step to a code is not small** compared with the magnitude that it leads to. -/
theorem units_succ_le_mul_gap (p : Precision) (c : Nat) :
    p.units (c + 1) ≤ 2 * 2 ^ p.fractionBits * (p.units (c + 1) - p.units c) := by
  obtain ⟨m, hm, hunits⟩ := p.units_eq_mul_gap c
  -- a magnitude is fewer than `2 * 2 ^ fractionBits` of the steps in its binade
  have hgap : p.units (c + 1) - p.units c = 2 ^ (c / 2 ^ p.fractionBits - 1) := by
    rw [units_succ, Nat.add_sub_cancel_left]
  rw [hgap, units_succ, hunits, ← Nat.succ_mul]
  exact Nat.mul_le_mul_right _ hm

/-- Sixteen digits tell more numbers apart than the fraction of either precision does. -/
theorem two_mul_fraction_lt (p : Precision) : 2 * 2 ^ p.fractionBits < 10 ^ 16 := by
  cases p <;> decide

/-- The step to a code exceeds what sixteen digits leave open. -/
theorem units_succ_lt_mul_gap (p : Precision) (c : Nat) :
    (p.units (c + 1) : ℚ) < 10 ^ 16 * (p.units (c + 1) - p.units c) := by
  have hpos : (0 : ℚ) < p.units (c + 1) - p.units c := by
    rw [sub_pos]
    exact_mod_cast p.units_lt_succ c
  -- the step in natural numbers, brought to the rationals
  have hgap : (p.units (c + 1) : ℚ) ≤ 2 * 2 ^ p.fractionBits * (p.units (c + 1) - p.units c) := by
    rw [← Nat.cast_sub (p.units_lt_succ c).le]
    exact_mod_cast p.units_succ_le_mul_gap c
  have hdigits : (2 * 2 ^ p.fractionBits : ℚ) < 10 ^ 16 := by
    exact_mod_cast p.two_mul_fraction_lt
  exact hgap.trans_lt (mul_lt_mul_of_pos_right hdigits hpos)

end Precision

namespace Decimal

variable {tie : Tie} {p : Precision} {c : Nat} {d : Decimal}

/-- **A decimal that is right to sixteen digits, and half a unit of the next, reads back.** -/
theorem code_eq_of_near (hc0 : c ≠ 0) (hc : c < p.infinityCode)
    (hnear : 10 ^ 16 * |2 * (d.toRat * 2 ^ p.depth - p.units c)| ≤ p.units c) : d.code p = c := by
  obtain ⟨b, rfl⟩ := Nat.exists_eq_succ_of_ne_zero hc0
  have hbelow := p.units_succ_lt_mul_gap b
  have habove := p.units_succ_lt_mul_gap (b + 1)
  have hstep : (p.units (b + 1) : ℚ) < p.units (b + 1 + 1) := by
    exact_mod_cast p.units_lt_succ (b + 1)
  -- half of the step on either side is more than the deviation
  have hlow : |2 * (d.toRat * 2 ^ p.depth - p.units (b + 1))| < p.units (b + 1) - p.units b :=
    lt_of_mul_lt_mul_left (hnear.trans_lt hbelow) (by norm_num)
  have hhigh : |2 * (d.toRat * 2 ^ p.depth - p.units (b + 1))|
      < p.units (b + 1 + 1) - p.units (b + 1) :=
    lt_of_mul_lt_mul_left (hnear.trans_lt (hstep.trans habove)) (by norm_num)
  rw [abs_lt] at hlow hhigh
  refine code_eq_of_between hc0 hc ?_ ?_
  · rw [Nat.succ_eq_add_one, Nat.add_sub_cancel]
    linarith [hlow.1]
  · rw [Nat.succ_eq_add_one]
    linarith [hhigh.2]

/-! ### The order of a quotient -/

/-- **A positive quotient lies in the decade that its order names.** -/
theorem quotientOrder_spec {num den : Nat} (hnum : 0 < num) (hden : 0 < den) :
    (10 : ℚ) ^ (quotientOrder num den - 1) ≤ num / den
      ∧ (num / den : ℚ) < 10 ^ quotientOrder num den := by
  have hnum' : (0 : ℚ) < num := by exact_mod_cast hnum
  have hden' : (0 : ℚ) < den := by exact_mod_cast hden
  rw [quotientOrder]
  split
  · next hle =>
    -- the digits of the whole part
    obtain ⟨k, hk⟩ : ∃ k, Digit.count (num / den) = k + 1 :=
      ⟨_, Digit.count_of_pos (Nat.div_pos hle hden).ne'⟩
    -- the count of digits bounds the whole part by powers of ten, and these the quotient
    have hlow : 10 ^ k * den ≤ num :=
      (Nat.le_div_iff_mul_le hden).1 (Digit.pow_lt_of_lt_count (by omega))
    have hhigh : num < 10 ^ (k + 1) * den :=
      (Nat.div_lt_iff_lt_mul hden).1 (Digit.count_le_iff.1 hk.le)
    rw [hk, show ((k + 1 : ℕ) : ℤ) - 1 = (k : ℤ) by push_cast; ring, zpow_natCast, zpow_natCast,
      le_div_iff₀ hden', div_lt_iff₀ hden']
    exact ⟨by exact_mod_cast hlow, by exact_mod_cast hhigh⟩
  · next hlt =>
    -- the digits of the inverse
    obtain ⟨k, hk⟩ : ∃ k, Digit.count ((den - 1) / num) = k + 1 :=
      ⟨_, Digit.count_of_pos (Nat.div_pos (by omega) hnum).ne'⟩
    -- what is counted is the inverse less one part, so that a power of ten falls into its own decade
    have hlow : 10 ^ k * num ≤ den - 1 :=
      (Nat.le_div_iff_mul_le hnum).1 (Digit.pow_lt_of_lt_count (by omega))
    have hhigh : den - 1 < 10 ^ (k + 1) * num :=
      (Nat.div_lt_iff_lt_mul hnum).1 (Digit.count_le_iff.1 hk.le)
    have hlow' : (num * 10 ^ k : ℚ) < den := by
      exact_mod_cast (show num * 10 ^ k < den by rw [Nat.mul_comm]; omega)
    have hhigh' : (den : ℚ) ≤ num * 10 ^ (k + 1) := by
      exact_mod_cast (show den ≤ num * 10 ^ (k + 1) by rw [Nat.mul_comm]; omega)
    rw [hk, show (1 : ℤ) - ((k + 1 : ℕ) : ℤ) - 1 = -((k + 1 : ℕ) : ℤ) by ring,
      show (1 : ℤ) - ((k + 1 : ℕ) : ℤ) = -((k : ℕ) : ℤ) by push_cast; ring, zpow_neg, zpow_neg,
      zpow_natCast, zpow_natCast]
    constructor
    · rw [inv_le_iff_one_le_mul₀ (by positivity), div_mul_eq_mul_div, one_le_div₀ hden']
      exact hhigh'
    · rw [div_lt_iff₀ hden', inv_mul_eq_div, lt_div_iff₀ (by positivity)]
      exact hlow'

/-- The order of a magnitude, as the search determines it. -/
def magnitudeOrder (p : Precision) (c : Nat) : Int :=
  quotientOrder (p.units c) (2 ^ p.depth)

/-- A magnitude that is not zero lies in the decade that its order names. -/
theorem magnitudeOrder_spec (hc : c ≠ 0) :
    (10 : ℚ) ^ (magnitudeOrder p c - 1) ≤ p.units c / (2 ^ p.depth : ℕ)
      ∧ (p.units c / (2 ^ p.depth : ℕ) : ℚ) < 10 ^ magnitudeOrder p c :=
  quotientOrder_spec (Precision.units_pos hc) (Nat.two_pow_pos p.depth)

/-! ### The neighbours on a grid -/

/-- A quotient in whole steps of a grid. -/
def gridFloor (num den : Nat) (e : Int) : Nat :=
  num * 10 ^ (-e).toNat / (den * 10 ^ e.toNat)

/-- **On a grid a quotient lies between the neighbour below and the one above.** -/
theorem between_neighbours (num : Nat) {den : Nat} (hden : 0 < den) (e : Int) :
    (gridFloor num den e * 10 ^ e : ℚ) ≤ num / den
      ∧ (num / den : ℚ) < (gridFloor num den e + 1) * 10 ^ e := by
  have hbottom : 0 < den * 10 ^ e.toNat := by positivity
  have hbottom' : (0 : ℚ) < (den * 10 ^ e.toNat : ℕ) := by exact_mod_cast hbottom
  -- in steps of the grid the quotient is the one that is divided out
  have hsteps : (num / den : ℚ)
      = (num * 10 ^ (-e).toNat : ℕ) / (den * 10 ^ e.toNat : ℕ) * 10 ^ e := by
    have hexp : e = e.toNat - ((-e).toNat : ℤ) := by omega
    have hpow : (10 : ℚ) ^ e = 10 ^ e.toNat / 10 ^ (-e).toNat := by
      rw [← zpow_natCast, ← zpow_natCast, ← zpow_sub₀ (by norm_num), ← hexp]
    rw [hpow]
    push_cast
    field_simp
  rw [hsteps, gridFloor]
  constructor
  · refine mul_le_mul_of_nonneg_right ?_ (ten_zpow_pos e).le
    rw [le_div_iff₀ hbottom']
    exact_mod_cast Nat.div_mul_le_self _ _
  · refine mul_lt_mul_of_pos_right ?_ (ten_zpow_pos e)
    rw [div_lt_iff₀ hbottom']
    exact_mod_cast Nat.lt_mul_of_div_lt (Nat.lt_succ_self _) hbottom

/-- A magnitude in whole steps of a grid. -/
def magnitudeFloor (p : Precision) (c : Nat) (e : Int) : Nat :=
  gridFloor (p.units c) (2 ^ p.depth) e

/-- On a grid a magnitude lies between the neighbour below and the one above. -/
theorem magnitude_between_neighbours (p : Precision) (c : Nat) (e : Int) :
    (magnitudeFloor p c e * 10 ^ e : ℚ) ≤ p.units c / (2 ^ p.depth : ℕ)
      ∧ (p.units c / (2 ^ p.depth : ℕ) : ℚ) < (magnitudeFloor p c e + 1) * 10 ^ e :=
  between_neighbours (p.units c) (Nat.two_pow_pos p.depth) e

/-- What is found on a grid is one of the neighbours, written without zeros at the end. -/
theorem eq_trim_of_onGrid? {num den : Nat} {e : Int} (h : onGrid? tie p c num den e = some d) :
    d = trim ⟨gridFloor num den e, e⟩ ∨ d = trim ⟨gridFloor num den e + 1, e⟩ := by
  simp only [onGrid?] at h
  -- each branch that has a hit names one of the two neighbours
  repeat' split at h
  all_goals first
    | exact .inl (Option.some.inj h).symm
    | exact .inr (Option.some.inj h).symm
    | cases h

/-- The search on a grid does not miss a neighbour that reads back. -/
theorem onGrid?_ne_none (tie : Tie) {num den : Nat} {e : Int}
    (h : (⟨gridFloor num den e, e⟩ : Decimal).code p = c
      ∨ (⟨gridFloor num den e + 1, e⟩ : Decimal).code p = c) :
    onGrid? tie p c num den e ≠ none := by
  -- the zeros that the search drops do not change how a neighbour reads
  rw [← code_eq_of_toRat_eq p (toRat_trim ⟨gridFloor num den e, e⟩),
    ← code_eq_of_toRat_eq p (toRat_trim ⟨gridFloor num den e + 1, e⟩)] at h
  intro hnone
  simp only [onGrid?, beq_iff_eq] at hnone
  -- only where both neighbours were tried and neither read back is there no hit
  repeat' split at hnone
  all_goals first
    | exact h.elim ‹_› ‹_›
    | cases hnone

/-! ### The search -/

/-- A decimal on the grid of seventeen digits that is within half a step of the magnitude reads back: the
magnitude is `10 ^ 16` steps or more. -/
theorem code_eq_of_half_step (hc0 : c ≠ 0) (hc : c < p.infinityCode) {e : Int}
    (he : e = magnitudeOrder p c - 17) {n : Nat}
    (hn : |2 * (n * (10 : ℚ) ^ e - p.units c / (2 ^ p.depth : ℕ))| ≤ 10 ^ e) :
    (⟨n, e⟩ : Decimal).code p = c := by
  have hmagnitude : (10 : ℚ) ^ 16 * 10 ^ e ≤ p.units c / (2 ^ p.depth : ℕ) := by
    have hexp : ((16 : ℕ) : ℤ) + e = magnitudeOrder p c - 1 := by omega
    rw [← zpow_natCast, ← zpow_add₀ (by norm_num), hexp]
    exact (magnitudeOrder_spec hc0).1
  -- half a step, taken `10 ^ 16` times, is no more than the magnitude
  have hbound : 10 ^ 16 * |2 * (n * (10 : ℚ) ^ e - p.units c / (2 ^ p.depth : ℕ))|
      ≤ p.units c / (2 ^ p.depth : ℕ) :=
    (mul_le_mul_of_nonneg_left hn (by norm_num)).trans hmagnitude
  -- the same in units of the magnitude, by which reading is judged
  have hscale : (0 : ℚ) < 2 ^ p.depth := by positivity
  have hunits : 2 * (n * (10 : ℚ) ^ e * 2 ^ p.depth - p.units c)
      = 2 * (n * (10 : ℚ) ^ e - p.units c / (2 ^ p.depth : ℕ)) * 2 ^ p.depth := by
    push_cast
    field_simp
  refine code_eq_of_near hc0 hc ?_
  rw [toRat, hunits, abs_mul, abs_of_pos hscale, ← mul_assoc]
  have hscaled := mul_le_mul_of_nonneg_right hbound hscale.le
  push_cast at hscaled ⊢
  rwa [div_mul_cancel₀ _ hscale.ne'] at hscaled

/-- **On the grid of seventeen digits a neighbour reads back**: the one that is nearer to the
magnitude. -/
theorem exists_neighbour_code_eq (hc0 : c ≠ 0) (hc : c < p.infinityCode) {e : Int}
    (he : e = magnitudeOrder p c - 17) :
    (⟨magnitudeFloor p c e, e⟩ : Decimal).code p = c
      ∨ (⟨magnitudeFloor p c e + 1, e⟩ : Decimal).code p = c := by
  obtain ⟨hbelow, habove⟩ := magnitude_between_neighbours p c e
  -- the middle of the two neighbours decides which of them is within half a step
  rcases le_total (2 * (p.units c / (2 ^ p.depth : ℕ) : ℚ))
    ((2 * magnitudeFloor p c e + 1) * 10 ^ e) with hnear | hnear
  · refine .inl (code_eq_of_half_step hc0 hc he (abs_le.2 ⟨?_, ?_⟩)) <;> linarith
  · refine .inr (code_eq_of_half_step hc0 hc he (abs_le.2 ⟨?_, ?_⟩)) <;>
      rw [Nat.cast_succ] <;> linarith

/-- **The shortest decimal is a hit on one of the grids.** -/
theorem exists_onGrid?_eq_shortest (tie : Tie) (hc0 : c ≠ 0) (hc : c < p.infinityCode) :
    ∃ n < 17, onGrid? tie p c (p.units c) (2 ^ p.depth) (magnitudeOrder p c - (n + 1 : ℕ))
      = some (shortest tie p c) := by
  -- the last grid has a hit, if none before it has
  have hlast := onGrid?_ne_none tie (exists_neighbour_code_eq hc0 hc rfl)
  have hfound : (List.range 17).findSome? (fun n => onGrid? tie p c (p.units c) (2 ^ p.depth)
      (magnitudeOrder p c - (n + 1 : ℕ))) ≠ none := by
    intro hnone
    exact hlast (List.findSome?_eq_none_iff.1 hnone 16 (by decide))
  obtain ⟨d, hd⟩ := Option.ne_none_iff_exists'.1 hfound
  -- the grid of the first hit, which is the decimal that is taken
  obtain ⟨n, hn, hgrid⟩ := List.exists_of_findSome?_eq_some hd
  have hshortest : shortest tie p c = d := by
    rw [magnitudeOrder] at hd
    rw [shortest, hd, Option.getD_some]
  exact ⟨n, List.mem_range.1 hn, hshortest ▸ hgrid⟩

/-- **The shortest decimal reads back.** -/
theorem code_shortest (tie : Tie) (hc0 : c ≠ 0) (hc : c < p.infinityCode) :
    (shortest tie p c).code p = c := by
  obtain ⟨n, -, hgrid⟩ := exists_onGrid?_eq_shortest tie hc0 hc
  exact code_of_onGrid? hgrid

/-- On the grid of `n` digits the neighbours of the magnitude have no more digits than that, but for the
power of ten that may come next. -/
theorem magnitudeFloor_lt (hc0 : c ≠ 0) (n : Nat) :
    magnitudeFloor p c (magnitudeOrder p c - n) < 10 ^ n := by
  set e := magnitudeOrder p c - n with he
  have hpow : (10 : ℚ) ^ magnitudeOrder p c = 10 ^ n * 10 ^ e := by
    rw [← zpow_natCast, ← zpow_add₀ (by norm_num), he]
    congr 1
    ring
  -- the neighbour below is below the end of the decade, `10 ^ n` steps from zero
  have hlt := (magnitude_between_neighbours p c e).1.trans_lt (magnitudeOrder_spec hc0).2
  rw [hpow] at hlt
  exact_mod_cast lt_of_mul_lt_mul_right hlt (ten_zpow_pos e).le

/-- The shortest decimal has at most seventeen digits, the last power of ten apart. -/
theorem coefficient_shortest_le (tie : Tie) (hc0 : c ≠ 0) (hc : c < p.infinityCode) :
    (shortest tie p c).coefficient ≤ 10 ^ 17 := by
  obtain ⟨n, hn, hgrid⟩ := exists_onGrid?_eq_shortest tie hc0 hc
  have hsteps := magnitudeFloor_lt (p := p) hc0 (n + 1)
  have hpow : 10 ^ (n + 1) ≤ 10 ^ 17 := Nat.pow_le_pow_right (by decide) hn
  -- one of the two neighbours, less its zeros; the one above may be the power of ten itself
  rcases eq_trim_of_onGrid? hgrid with h | h
  · rw [h]
    exact (coefficient_trim_le _).trans (hsteps.le.trans hpow)
  · rw [h]
    exact (coefficient_trim_le _).trans ((Nat.succ_le_of_lt hsteps).trans hpow)

end Decimal

end Haystack
