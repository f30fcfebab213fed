import Haystack.Proofs.Search.Refusal
import Haystack.Proofs.Search.SubArray

/-!
# A larger tolerance loses no match

Two runs of one query that differ in the tolerance only have the same starts to try, and in the run with
the larger tolerance at least as many of them match. So where the one run finds something the other one
does too, and comes to it no later: at the same position or before it in a forward search, at the same
position or after it in a backward search.

A match is a matter of every aligned pair of items, so it is enough to know that numbers that agree under
a tolerance agree under a larger one. Numbers of 64 bits do since the tolerance only stands on the right of
a comparison; what the distance of the numbers is, and whether it has been rounded, does not matter. For
numbers of 32 bits the tolerance is rounded up first, and rounding up is monotone because a ceiling is a
least element: what is not below the larger number is not below the smaller one.

* `FlatKind.agree_windowOf_mono` — a larger tolerance makes more items agree.
* `Options.Widens` — options that ask for the same starts, and for a window that is not smaller.
* `Options.search_of_widens` — what is found in a direction is found no later in that direction.
* `Options.widening_keeps_matches` says it of the entry points.
-/

namespace Haystack

/-! ### Agreement of items -/

section Agreement

variable {s t : Tolerance .double}

/-- **A larger tolerance admits more.** -/
theorem Tolerance.admits_mono {p : Precision} {s t : Tolerance p} (hle : s.width.toEReal ≤ t.width.toEReal)
    {x y : Binary p} (hadmits : s.admits x y = true) : t.admits x y = true := by
  rw [admits_iff] at hadmits ⊢
  exact hadmits.mono s.ordered t.ordered hle

/-- **Narrowing is monotone.** -/
theorem Tolerance.narrow_mono (hle : s.width.toEReal ≤ t.width.toEReal) :
    s.narrow.width.toEReal ≤ t.narrow.width.toEReal :=
  s.isCeiling_narrow.mono t.isCeiling_narrow hle

/-- **A larger tolerance makes more items agree**, on every flat kind; on the discrete ones it changes
nothing. -/
theorem FlatKind.agree_windowOf_mono (hle : s.width.toEReal ≤ t.width.toEReal) {k : FlatKind}
    {x y : k.Item} (hagree : k.searchRule.agree (k.windowOf s) x y = true) :
    k.searchRule.agree (k.windowOf t) x y = true := by
  cases k with
  | float64 => exact Tolerance.admits_mono hle hagree
  -- numbers of 32 bits go by the ceilings of the two tolerances, which are in the same order
  | float32 => exact Tolerance.admits_mono (Tolerance.narrow_mono hle) hagree
  | int64 | int32 | int16 | int8 | bool | char => exact hagree

end Agreement

/-- **A search in the direction comes to `j` no later than to `i`.** -/
def Direction.NoLater : Direction → Nat → Nat → Prop
  | forward, j, i => j ≤ i
  | backward, j, i => i ≤ j

namespace Options

variable {ε : Type} (equal : ε → ε → Bool) {o o' : Options} {d : Direction}

/-! ### Answers -/

/-- Where there is a start, something is answered, and the search comes to it no later. -/
theorem IsAnswer.exists_noLater {starts : Set Nat} {found : Option Nat}
    (hanswer : IsAnswer d starts found) {i : Nat} (hi : i ∈ starts) :
    ∃ j, d.NoLater j i ∧ found = some j := by
  cases d with
  | forward => exact Search.FirstIn.exists_le hanswer hi
  | backward => exact Search.LastIn.exists_ge hanswer hi

/-- **The starts of a search in flat arrays**: those that the options allow and at which every item agrees
with the one that it lies on. -/
def flatStarts (o : Options) (d : Direction) {k : FlatKind} (t : Tolerance .double)
    (xs ys : List k.Item) : Set Nat :=
  {i | o.Allows d xs.length ys.length i
    ∧ ∀ j x y, xs[i + j]? = some x → ys[j]? = some y → k.searchRule.agree (k.windowOf t) x y = true}

/-- An accepted query in flat arrays is answered with the starts of the search. -/
theorem exists_flat_answer {k : FlatKind} (ha : o.Accepts d (.flat k)) (xs ys : List k.Item) :
    ∃ t : Tolerance .double, t.width = o.toleranceOrZero
      ∧ ∃ found, o.search d equal (some (.flat ⟨k, xs⟩)) (some (.flat ⟨k, ys⟩)) = .ok found
        ∧ IsAnswer d (o.flatStarts d t xs ys) found := by
  obtain ⟨t, hwidth, hlocate⟩ :=
    o.locate_of_accepts d equal (.flat ⟨k, xs⟩) (p := .flat ⟨k, ys⟩) ha
  refine ⟨t, hwidth, o.scan d (k.searchRule.agree (k.windowOf t)) xs ys, ?_, o.isAnswer_scan d _ xs ys⟩
  rw [search_some, hlocate, scanArrays_flat]

/-- What is answered was asked properly. -/
theorem accepts_of_search_eq_ok {h? : Option (TypedArray ε)} {p : TypedArray ε} {found : Option Nat}
    (hsearch : o.search d equal h? (some p) = .ok found) : o.Accepts d p.kind := by
  by_contra hnot
  obtain ⟨e, herror⟩ : ∃ e, o.locate d equal h? p = .error e := o.exists_error_of_not_accepts d hnot
  rw [search_some, herror] at hsearch
  cases hsearch

/-! ### Two runs -/

/-- **Options that widen others**: the bounds are the same, both tolerances are accepted, and the one is at
least the other. A tolerance that is absent counts as zero. -/
structure Widens (o' o : Options) : Prop where
  start : o'.start? = o.start?
  stop : o'.stop? = o.stop?
  valid : o.validate = .ok ()
  valid' : o'.validate = .ok ()
  le : o.toleranceOrZero.numLe o'.toleranceOrZero = true

/-- The bounds alone say which starts are allowed. -/
theorem Widens.allows_iff (hwidens : o'.Widens o) (n m i : Nat) :
    o'.Allows d n m i ↔ o.Allows d n m i := by
  unfold Allows
  rw [hwidens.start, hwidens.stop]

/-- **Wider options have all the starts.** -/
theorem Widens.flatStarts_subset (hwidens : o'.Widens o) {s t : Tolerance .double}
    (hs : s.width = o.toleranceOrZero) (ht : t.width = o'.toleranceOrZero) {k : FlatKind}
    (xs ys : List k.Item) : o.flatStarts d s xs ys ⊆ o'.flatStarts d t xs ys := by
  -- the options compare the widths as numbers, and their values are in that order
  have hle : s.width.toEReal ≤ t.width.toEReal := by
    rw [← Binary.numLe_iff s.ordered t.ordered, hs, ht]
    exact hwidens.le
  rintro i ⟨hallows, hmatch⟩
  refine ⟨(hwidens.allows_iff _ _ i).2 hallows, fun j x y hx hy => ?_⟩
  exact FlatKind.agree_windowOf_mono hle (hmatch j x y hx hy)

/-- **What is found under the options is found no later under those that widen them.** -/
theorem search_of_widens (hwidens : o'.Widens o) {h p : TypedArray ε} (hkind : h.kind = p.kind)
    (hfloating : p.kind.isFloating = true) {i : Nat}
    (hfound : o.search d equal (some h) (some p) = .ok (some i)) :
    ∃ j, d.NoLater j i ∧ o'.search d equal (some h) (some p) = .ok (some j) := by
  -- the first query was accepted, so there is no end bound backwards, and the second one is accepted too
  have haccepts : o.Accepts d p.kind := accepts_of_search_eq_ok equal hfound
  have haccepts' : o'.Accepts d p.kind :=
    .of_validate hwidens.valid' hfloating fun hd => hwidens.stop.trans (haccepts.stop hd)
  rcases TypedArray.cases_of_kind_eq hkind with ⟨k, xs, ys, rfl, rfl⟩ | ⟨xs, ys, rfl, rfl⟩
  · obtain ⟨s, hs, found, hsearch, hanswer⟩ := exists_flat_answer equal haccepts xs ys
    obtain ⟨t, ht, found', hsearch', hanswer'⟩ := exists_flat_answer equal haccepts' xs ys
    -- what was found is a start of the one search, hence one of the other
    obtain rfl : found = some i := Except.ok.inj (hsearch.symm.trans hfound)
    have hstart : i ∈ o'.flatStarts d t xs ys := hwidens.flatStarts_subset hs ht xs ys hanswer.mem
    obtain ⟨j, hj, rfl⟩ := hanswer'.exists_noLater hstart
    exact ⟨j, hj, hsearch'⟩
  · cases hfloating

/-- **Widening the tolerance loses no match.** In two arrays of floating-point numbers of one kind, under
options that widen others, a forward search finds what it found or something before it, a backward search
finds what it found or something after it, and what was contained is contained. -/
theorem widening_keeps_matches (hwidens : o'.Widens o) (h p : TypedArray ε) (hkind : h.kind = p.kind)
    (hfloating : p.kind.isFloating = true) :
    (∀ i, o.firstIndexOf equal (some h) (some p) = .ok (some i) →
        ∃ j ≤ i, o'.firstIndexOf equal (some h) (some p) = .ok (some j))
      ∧ (∀ i, o.lastIndexOf equal (some h) (some p) = .ok (some i) →
        ∃ j ≥ i, o'.lastIndexOf equal (some h) (some p) = .ok (some j))
      ∧ (o.contains equal (some h) (some p) = .ok true →
        o'.contains equal (some h) (some p) = .ok true) := by
  refine ⟨fun i hfound => ?_, fun i hfound => ?_, fun hcontains => ?_⟩
  · exact search_of_widens equal hwidens (d := .forward) hkind hfloating hfound
  · exact search_of_widens equal hwidens (d := .backward) hkind hfloating hfound
  · cases hsearch : o.search .forward equal (some h) (some p) with
    | error e =>
      -- a search that is refused does not say that anything is contained
      have herror : o.contains equal (some h) (some p) = .error e := by
        show (o.search .forward equal (some h) (some p)).map Option.isSome = _
        rw [hsearch, Except.map]
      rw [herror] at hcontains
      cases hcontains
    | ok found =>
      -- to be contained is to be found forwards
      rw [contains_eq_ok_iff hsearch, Option.isSome_iff_exists] at hcontains
      obtain ⟨i, rfl⟩ := hcontains
      obtain ⟨j, -, hsearch'⟩ := search_of_widens equal hwidens hkind hfloating hsearch
      exact (contains_eq_ok_iff hsearch').2 rfl

/-- In `[1.0625, 1, 1.0625]` the number `1` is found at `1` without a tolerance, from either end. Within
`0.1` the numbers around it match as well, and it is found no later. -/
theorem widening_keeps_matches_withinTenth :
    withinTenth.Widens empty
      ∧ (∃ j ≤ 1, withinTenth.firstIndexOf (Element.deepEq (· == ·))
          (some (singles [0x3F880000, 0x3F800000, 0x3F880000])) (some (singles [0x3F800000]))
            = .ok (some j))
      ∧ (∃ j ≥ 1, withinTenth.lastIndexOf (Element.deepEq (· == ·))
          (some (singles [0x3F880000, 0x3F800000, 0x3F880000])) (some (singles [0x3F800000]))
            = .ok (some j))
      ∧ withinTenth.contains (Element.deepEq (· == ·))
          (some (singles [0x3F880000, 0x3F800000, 0x3F880000])) (some (singles [0x3F800000]))
            = .ok true := by
  have hwidens : withinTenth.Widens empty := by
    refine ⟨rfl, rfl, rfl, ?_, ?_⟩
    · decide +kernel
    · decide +kernel
  obtain ⟨hforward, hbackward, hcontains⟩ :=
    widening_keeps_matches (Element.deepEq (· == ·)) hwidens
      (singles [0x3F880000, 0x3F800000, 0x3F880000]) (singles [0x3F800000]) rfl rfl
  refine ⟨hwidens, hforward 1 ?_, hbackward 1 ?_, hcontains ?_⟩
  · decide +kernel
  · decide +kernel
  · decide +kernel

end Options

end Haystack
