import Haystack.Proofs.Binary.Ceiling
import Haystack.Search.Tolerance

/-!
# Tolerances

What a tolerance is and does, in terms of values: the widths of tolerances are the numbers that are not
below zero (`exists_width_iff`), a tolerance admits the pairs that are within its width (`admits_iff`),
and narrowing rounds the width up (`isCeiling_narrow`).
-/

namespace Haystack

namespace Binary

variable {p : Precision}

/-- The numbers are numerically equal, or their rounded distance is at most `width`. -/
def Within (width x y : Binary p) : Prop :=
  x.numEq y = true ∨ (x.distance y).numLe width = true

/-- **A larger width admits more.** -/
theorem Within.mono {u v x y : Binary p} (hu : u.isNaN = false) (hv : v.isNaN = false)
    (h : u.toEReal ≤ v.toEReal) (hwithin : Within u x y) : Within v x y := by
  refine hwithin.imp_right fun hle => ?_
  cases hd : (x.distance y).isNaN
  · rw [numLe_iff hd hu] at hle
    rw [numLe_iff hd hv]
    exact hle.trans h
  · -- a NaN is within no width at all
    simp [numLe, hd] at hle

/-- Widths of the same value admit the same pairs. -/
theorem within_congr {u v x y : Binary p} (hu : u.isNaN = false) (hv : v.isNaN = false)
    (h : u.toEReal = v.toEReal) : Within u x y ↔ Within v x y :=
  ⟨Within.mono hu hv h.le, Within.mono hv hu h.ge⟩

end Binary

namespace Tolerance

variable {p : Precision}

/-- A tolerance is determined by its width. -/
theorem eq_of_width_eq {s t : Tolerance p} (h : s.width = t.width) : s = t := by
  cases s
  cases t
  obtain rfl := h
  rfl

/-- **The widths of tolerances** are the numbers that are not below zero. -/
theorem exists_width_iff {x : Binary p} :
    (∃ t : Tolerance p, t.width = x) ↔ x.isNaN = false ∧ 0 ≤ x.toEReal := by
  constructor
  · rintro ⟨t, rfl⟩
    refine ⟨t.ordered, ?_⟩
    cases hneg : t.width.negative
    · exact Binary.toEReal_nonneg hneg
    · rw [Binary.toEReal_of_code_eq_zero (t.nonnegative hneg)]
  · rintro ⟨hn, h0⟩
    -- what passes the test for numbers below zero is positive or a zero
    have hbelow : x.isBelowZero = false := by
      rw [← Bool.not_eq_true, Binary.isBelowZero_iff hn, not_lt]
      exact h0
    exact ⟨⟨x, hn, code_eq_zero_of_not_below hn hbelow⟩, rfl⟩

/-- A width without a finite value is the positive infinity. -/
theorem eq_infinity_of_not_isFinite {t : Tolerance p} (h : ¬t.width.isFinite) :
    t.width = Binary.infinity false := by
  have hcode : t.width.code = p.infinityCode :=
    Nat.le_antisymm (Binary.code_le_of_isNaN t.ordered)
      (Nat.not_lt.1 fun hlt => h (decide_eq_true hlt))
  -- only the width of a zero may have a minus sign
  have hsign : t.width.negative = false := by
    rw [← Bool.not_eq_true]
    intro hneg
    exact p.infinityCode_pos.ne' (hcode ▸ t.nonnegative hneg)
  show t.width = ⟨false, p.infinityCode, p.infinityCode_lt⟩
  simp only [← hcode, ← hsign]

/-- A number is taken for the width that it is. -/
theorem ofWidth?_eq_ok_iff {x : Binary p} {t : Tolerance p} :
    ofWidth? x = .ok t ↔ t.width = x := by
  constructor
  · -- the two refusals give no tolerance
    intro h
    rw [ofWidth?] at h
    split at h
    · cases h
    · split at h
      · cases h
      · cases h
        rfl
  · rintro rfl
    obtain ⟨hn, h0⟩ := exists_width_iff.1 ⟨t, rfl⟩
    -- and a width passes both tests
    have hbelow : ¬t.width.isBelowZero = true := by
      rw [Binary.isBelowZero_iff hn, not_lt]
      exact h0
    rw [ofWidth?, dif_neg (Bool.eq_false_iff.1 hn), dif_neg hbelow]

/-- **A number is refused as a width** when it is a NaN, or below zero and then with its value at 64
bits. -/
theorem ofWidth?_eq_error_iff {x : Binary p} {e : SearchError} :
    ofWidth? x = .error e
      ↔ (x.isNaN = true ∧ e = .nanTolerance)
        ∨ (x.isNaN = false ∧ x.toEReal < 0 ∧ e = .negativeTolerance (x.convert .double)) := by
  rw [ofWidth?]
  by_cases hn : x.isNaN = true
  · rw [dif_pos hn]
    simp [hn, eq_comm]
  · rw [dif_neg hn]
    rw [Bool.not_eq_true] at hn
    have hbelow := Binary.isBelowZero_iff hn
    -- the test for a NaN comes first, and the second one finds what is below zero
    by_cases hb : x.isBelowZero = true
    · rw [dif_pos hb]
      simp [hn, hbelow.1 hb, eq_comm]
    · rw [dif_neg hb]
      simp [hn, mt hbelow.2 hb]

/-- Narrowing refuses nothing by itself. -/
theorem narrowed?_eq_error_iff {x : Double} {e : SearchError} :
    narrowed? x = .error e ↔ ofWidth? x = .error e := by
  rw [narrowed?]
  cases ofWidth? x <;> simp [Except.map]

/-- A tolerance admits the pairs within its width. -/
theorem admits_iff (t : Tolerance p) (x y : Binary p) :
    t.admits x y = true ↔ Binary.Within t.width x y := by
  rw [admits, Bool.or_eq_true]
  rfl

/-- **A narrowed tolerance is the ceiling of the tolerance.** -/
theorem isCeiling_narrow (t : Tolerance .double) : Binary.IsCeiling t.width t.narrow.width :=
  Binary.isCeiling_roundUp Precision.single_fitsIn_double t.ordered t.nonnegative

/-- A narrowed tolerance admits the pairs within a ceiling of the tolerance; which one does not matter,
as all of them have the same value. -/
theorem narrow_admits_iff (t : Tolerance .double) (x y : Single) :
    t.narrow.admits x y = true
      ↔ ∃ u : Single, Binary.IsCeiling t.width u ∧ Binary.Within u x y := by
  rw [admits_iff]
  constructor
  · intro h
    exact ⟨_, t.isCeiling_narrow, h⟩
  · rintro ⟨u, hu, h⟩
    -- two ceilings of one tolerance have the same value
    have hvalue : u.toEReal = t.narrow.width.toEReal := hu.toEReal_eq t.isCeiling_narrow
    exact (Binary.within_congr hu.ordered t.narrow.ordered hvalue).1 h

end Tolerance

end Haystack
