import Haystack.Proofs.Binary.Identity
import Haystack.Proofs.Search.SubArray
import Haystack.Proofs.Search.Window
import Haystack.Proofs.Value.Path

/-!
# The empty window is numeric equality

A search for floating-point numbers without a tolerance goes by a window of width zero: two numbers agree
when they are numerically equal, or when their computed distance is at most zero. The second case adds
nothing to the first. A distance is rounded, but the distance of two different finite numbers is at least
one unit, the least positive number, and that is not rounded to zero: units do not get lost below the
normal numbers. Infinities and NaNs have no distance that is zero.

So two kinds of sameness are left, which differ in two places only. Numerically a NaN is not equal to
itself, and the two zeros are equal; bit by bit it is the other way round. Where there is neither a NaN nor
a zero, a search without a tolerance and deep equality are one notion, as they are for all other kinds.

* `Tolerance.admits_iff_numEq` — the empty window, of either sign, admits what is numerically equal.
* `Options.empty_window_compares_exactly` says it of windows, and of searches in arrays of ordinary numbers.
-/

namespace Haystack

namespace Tolerance

open Binary

variable {p : Precision} {x y : Binary p} {t : Tolerance p}

/-! ### Windows -/

/-- What is in a window is not a NaN. -/
theorem isNaN_of_admits (h : t.admits x y = true) : x.isNaN = false := by
  by_contra hx
  rw [Bool.not_eq_false] at hx
  rw [t.admits_eq_false_of_isNaN hx] at h
  cases h

/-- **The empty window admits what is numerically equal**, and nothing else. -/
theorem admits_iff_numEq (hempty : t.width.code = 0) : t.admits x y = true ↔ x.numEq y = true := by
  have hfinite : ¬t.width.isInfinite = true := by
    rw [isInfinite, hempty, beq_iff_eq]
    exact p.infinityCode_pos.ne
  -- an infinity is numerically equal to itself, and too far from anything else
  have hinfinite : ∀ {x y : Binary p}, x.isInfinite = true → y.isNaN = false →
      t.admits x y = true → x.numEq y = true := by
    intro x y hx hy h
    by_cases hxy : x = y
    · rw [← hxy]
      exact numEq_self (isNaN_of_isInfinite hx)
    · exact absurd ((t.admits_iff_of_isInfinite hx hy hxy).1 h) hfinite
  -- neither number is a NaN, so each is finite or infinite
  refine ⟨fun h => ?_, fun h => (t.admits_iff x y).2 (.inl h)⟩
  have hx : x.isNaN = false := isNaN_of_admits h
  have hy : y.isNaN = false := by
    rw [t.admits_comm] at h
    exact isNaN_of_admits h
  rcases Nat.lt_or_eq_of_le (code_le_of_isNaN hx) with hxfin | hxinf
  · rcases Nat.lt_or_eq_of_le (code_le_of_isNaN hy) with hyfin | hyinf
    · rcases (t.admits_iff x y).1 h with hequal | hle
      · exact hequal
      · -- a computed distance of zero is an exact one, as units are not lost in rounding
        have hxf : x.isFinite = true := decide_eq_true hxfin
        have hyf : y.isFinite = true := decide_eq_true hyfin
        rw [numEq_iff hx hy, toEReal, toEReal, if_pos hxf, if_pos hyf,
          toReal_eq_of_numLe_distance hxf hyf hempty hle]
    · rw [t.admits_comm] at h
      rw [numEq_comm]
      exact hinfinite (beq_iff_eq.2 hyinf) hx h
  · exact hinfinite (beq_iff_eq.2 hxinf) hy h

/-- Narrowing leaves the empty window empty. -/
theorem code_width_narrow (t : Tolerance .double) (hempty : t.width.code = 0) :
    t.narrow.width.code = 0 := by
  -- zero is its own ceiling, whatever the sign
  have hzero : IsCeiling t.width (Binary.zero false : Single) := by
    apply IsCeiling.of_eq (isNaN_of_code_eq_zero rfl)
    rw [toEReal_of_code_eq_zero hempty, toEReal_of_code_eq_zero rfl]
  have hvalue : t.narrow.width.toEReal = 0 := by
    rw [t.isCeiling_narrow.toEReal_eq hzero, toEReal_of_code_eq_zero rfl]
  rw [toEReal_of_nonneg hvalue.ge] at hvalue
  exact (Precision.extent_eq_zero_iff (code_le_of_isNaN t.narrow.ordered)).1 hvalue

end Tolerance

variable {α : Type}

/-! ### Arrays of ordinary numbers -/

/-- An item that is an ordinary number, or no floating-point number at all. -/
def FlatKind.Ordinary : (k : FlatKind) → k.Item → Prop
  | float64, x => Binary.Ordinary x
  | float32, x => Binary.Ordinary x
  | int64, _ | int32, _ | int16, _ | int8, _ | bool, _ | char, _ => True

/-- **An array without NaNs and zeros.** -/
def TypedArray.Ordinary {ε : Type} : TypedArray ε → Prop
  | .flat a => ∀ x ∈ a.items, a.kind.Ordinary x
  | .reference _ => True

/-- Under the empty window, numbers one of which is ordinary agree when they are identical. -/
theorem FlatKind.agree_windowOf_iff_eq {k : FlatKind} (hk : (Kind.flat k).isFloating = true)
    {t : Tolerance .double} (hempty : t.width.code = 0) {x y : k.Item}
    (h : k.Ordinary x ∨ k.Ordinary y) :
    k.searchRule.agree (k.windowOf t) x y = true ↔ x = y := by
  cases k with
  | float64 => exact (Tolerance.admits_iff_numEq hempty).trans (Binary.numEq_iff_eq h)
  | float32 =>
    exact (Tolerance.admits_iff_numEq (t.code_width_narrow hempty)).trans (Binary.numEq_iff_eq h)
  | int64 | int32 | int16 | int8 | bool | char => cases hk

namespace ElementArray

variable {equal : α → α → Bool} {h p : ElementArray α}

/-- **Where the pattern fits, to match it under the empty window is to be equal to it**, if haystack or
pattern holds ordinary numbers only. -/
theorem matchesAt_iff_of_ordinary (hkind : h.kind = p.kind) (hfloating : p.kind.isFloating = true)
    (hordinary : h.Ordinary ∨ p.Ordinary) {t : Tolerance .double} (hempty : t.width.code = 0) {i : Nat}
    (hfit : i + p.length ≤ h.length) :
    h.MatchesAt equal t.width p i ↔ Element.deepEqArray equal (h.slice i p.length) p = true := by
  rcases TypedArray.cases_of_kind_eq hkind with ⟨k, xs, ys, rfl, rfl⟩ | ⟨xs, ys, rfl, rfl⟩
  · apply matchesAt_flat_iff_deepEqArray_slice _ hfit
    intro x hx y hy
    rw [← k.agree_windowOf_iff equal t]
    apply FlatKind.agree_windowOf_iff_eq hfloating hempty
    exact hordinary.imp (fun h => h x hx) (fun h => h y hy)
  · cases hfloating

end ElementArray

namespace Options

/-! ### Searches -/

/-- **A search without a tolerance is a search for equal parts**, if haystack or pattern holds ordinary
numbers only. -/
theorem search_of_ordinary {o : Options} {d : Direction} (equal : α → α → Bool) {h p : ElementArray α}
    (hkind : h.kind = p.kind) (hfloating : p.kind.isFloating = true)
    (hordinary : h.Ordinary ∨ p.Ordinary) (htolerance : o.tolerance? = none)
    (hstop : d = .backward → o.stop? = none) :
    ∃ found, o.search d (Element.deepEq equal) (some h) (some p) = .ok found
      ∧ IsAnswer d {i | o.Allows d h.length p.length i ∧ i ∈ ElementArray.EqualParts equal h p}
        found := by
  -- without a tolerance the window is the empty one
  have hzero : o.toleranceOrZero = (Tolerance.zero .double).width := by
    rw [toleranceOrZero, htolerance]
    rfl
  apply search_equalParts equal hkind (.of_no_tolerance htolerance hstop)
  intro i hfit
  rw [hzero]
  exact ElementArray.matchesAt_iff_of_ordinary hkind hfloating hordinary rfl hfit

/-- **The empty window compares exactly**, up to the sameness of zeros and the difference of a NaN from
itself. It is what a width of zero of either sign makes, and the default. A search without a tolerance is
therefore a search for equal parts, if haystack or pattern holds ordinary numbers only. -/
theorem empty_window_compares_exactly :
    (∀ (p : Precision) (t : Tolerance p),
        (t = (SearchRule.floating p).default ∨ ∃ s, Tolerance.ofWidth? (.zero s) = .ok t) →
        ∀ x y : Binary p,
          ((SearchRule.floating p).agree t x y = true
            ↔ (x.toBits = y.toBits ∧ x.isNaN = false)
              ∨ ((∃ s, x = .zero s) ∧ ∃ s, y = .zero s))
          ∧ (x.isFinite = true → y.isFinite = true →
            Binary.IsNearest |x.toReal - y.toReal| (x.distance y)))
      ∧ (∀ (p : Precision) (s : Bool), ∃ t : Tolerance p, Tolerance.ofWidth? (.zero s) = .ok t)
      ∧ ∀ (α : Type) (equal : α → α → Bool) (h p : ElementArray α), h.kind = p.kind →
        p.kind.isFloating = true → h.Ordinary ∨ p.Ordinary →
          (∀ (o : Options) (d : Direction), o.tolerance? = none →
              (d = .backward → o.stop? = none) → ∀ found,
              (o.search d (Element.deepEq equal) (some h) (some p) = .ok found
                ↔ IsAnswer d
                  {i | o.Allows d h.length p.length i ∧ i ∈ ElementArray.EqualParts equal h p} found))
            ∧ ∀ d, (d = .backward → h.Addressable) → ∀ found,
              (empty.search d (Element.deepEq equal) (some h) (some p) = .ok found
                ↔ IsAnswer d (ElementArray.EqualParts equal h p) found) := by
  refine ⟨?_, ?_, ?_⟩
  · intro p t hempty x y
    -- the default window and those of both zeros are empty
    have hwidth : t.width.code = 0 := by
      rcases hempty with rfl | ⟨s, hs⟩
      · rfl
      · rw [Tolerance.ofWidth?_eq_ok_iff.1 hs]
        rfl
    refine ⟨?_, Binary.isNearest_distance⟩
    show t.admits x y = true ↔ _
    rw [Tolerance.admits_iff_numEq hwidth, Binary.numEq_iff_same_or_zeros,
      Binary.toBits_injective.eq_iff, Binary.code_eq_zero_iff, Binary.code_eq_zero_iff]
  · intro p s
    -- a zero of either sign is not below zero
    have hzero : (Binary.zero s : Binary p).toEReal = 0 := Binary.toEReal_of_code_eq_zero rfl
    obtain ⟨t, ht⟩ := Tolerance.exists_width_iff.2
      ⟨Binary.isNaN_of_code_eq_zero (x := (.zero s : Binary p)) rfl, hzero.ge⟩
    exact ⟨t, Tolerance.ofWidth?_eq_ok_iff.2 ht⟩
  · intro α equal h p hkind hfloating hordinary
    -- there is an answer, and only one, so that the answers are those of the specification
    have hanswers : ∀ (o : Options) (d : Direction), o.tolerance? = none →
        (d = .backward → o.stop? = none) → ∀ found,
        (o.search d (Element.deepEq equal) (some h) (some p) = .ok found
          ↔ IsAnswer d
            {i | o.Allows d h.length p.length i ∧ i ∈ ElementArray.EqualParts equal h p} found) := by
      intro o d htolerance hstop found
      obtain ⟨found', hsearch, hanswer⟩ :=
        search_of_ordinary equal hkind hfloating hordinary htolerance hstop
      rw [hsearch, Except.ok.injEq]
      exact hanswer.eq_iff found
    refine ⟨hanswers, fun d hd found => ?_⟩
    rw [hanswers empty d rfl (fun _ => rfl), allows_empty_and_equalParts equal hd]

/-- An array of numbers of 64 bits, given by their bit patterns. -/
def doubles (bits : List Nat) : ElementArray Nat :=
  .flat ⟨.float64, bits.map (Binary.ofBits .double)⟩

/-- The two least positive numbers differ by the least positive number, and even the window of width `-0`
tells them apart. So in an array of them each is found where it is: the last one at `2`, and at `0` if the
search goes back from `1`. -/
theorem empty_window_compares_exactly_belowNormal :
    (∃ t : Tolerance .double, Tolerance.ofWidth? (.zero true) = .ok t
        ∧ ¬(SearchRule.floating .double).agree t (Binary.ofBits .double 1) (Binary.ofBits .double 2)
          = true)
      ∧ (doubles [1, 2, 1]).Ordinary ∧ (doubles [1, 2, 1]).Addressable
      ∧ IsGreatest (ElementArray.EqualParts (· == ·) (doubles [1, 2, 1]) (doubles [1])) 2
      ∧ IsAnswer .backward {i | (empty.withStart 1).Allows .backward 3 1 i
        ∧ i ∈ ElementArray.EqualParts (· == ·) (doubles [1, 2, 1]) (doubles [1])} (some 0) := by
  have hordinary : (doubles [1, 2, 1]).Ordinary := by
    intro x hx
    have hcases : x = Binary.ofBits .double 1 ∨ x = Binary.ofBits .double 2 := by
      simpa [doubles, or_comm] using hx
    rcases hcases with rfl | rfl
    · exact ⟨by decide, by decide⟩
    · exact ⟨by decide, by decide⟩
  have haddressable : (doubles [1, 2, 1]).Addressable := by
    show (3 : Int) ≤ fromEnd.toInt
    decide
  obtain ⟨hwindow, hwidths, harrays⟩ := empty_window_compares_exactly
  obtain ⟨t, ht⟩ := hwidths .double true
  obtain ⟨hbounded, hplain⟩ := harrays Nat (· == ·) (doubles [1, 2, 1]) (doubles [1]) rfl rfl
    (.inl hordinary)
  refine ⟨⟨t, ht, ?_⟩, hordinary, haddressable, ?_, ?_⟩
  · rw [(hwindow .double t (.inr ⟨true, ht⟩) _ _).1]
    -- the two numbers have different bits, and neither is a zero
    rintro (⟨hbits, -⟩ | ⟨⟨s, hs⟩, -⟩)
    · exact absurd hbits (by decide)
    · exact absurd (Binary.code_eq_zero_iff.2 ⟨s, hs⟩) (by decide)
  · exact (hplain .backward (fun _ => haddressable) (some 2)).1 (by decide +kernel)
  · exact (hbounded (empty.withStart 1) .backward rfl (fun _ => rfl) (some 0)).1 (by decide +kernel)

end Options

end Haystack
