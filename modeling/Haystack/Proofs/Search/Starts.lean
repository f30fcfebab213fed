import Haystack.Proofs.Search.IndexedScan
import Haystack.Search.Agreement
import Haystack.Search.Slice

/-!
# Searching for a pattern is trying all starts

What a search for a pattern answers can be found by trying every start: of those that the bounds allow
and at which the pattern occurs, it is the first one or the last one. The three sets of starts are
`startsFrom` for a forward search, `startsUpTo` for a backward search and `startsWithin` for a forward
search with an end bound, and each of the results names every search of slices that goes by its set:

* `forward_finds_first_start`,
* `backward_finds_last_start`,
* `forwardWithin_finds_first_start_inside`.

Bounds are any integers. The sets say what becomes of one that is negative or past the end, and that
differs: a start bound counts as the front or the end then, a negative limit leaves no start, and an end
bound is brought into the haystack. The relation by which items agree is arbitrary, and it always has the
item of the haystack on the left. A search of slices takes it from a search rule and a window; the scans
themselves take it from the caller.

The results say of the scans by position what they say of the scans of lists, and that they read nothing
out of range.
-/

namespace Haystack

namespace Search

variable {α β : Type} (agree : α → β → Bool) (haystack : List α) (pattern : List β)

/-! ### Starts -/

/-- **The starts from `start` on**, which is brought into the haystack. -/
def startsFrom (start : Int) : Set Nat :=
  {i | min (max start 0) haystack.length ≤ i ∧ OccursAt agree haystack pattern i}

/-- **The starts up to `limit`.** -/
def startsUpTo (limit : Int) : Set Nat :=
  {i | (i : Int) ≤ limit ∧ OccursAt agree haystack pattern i}

/-- **The starts from `start` on of occurrences that end before `stop`**. The end bound is brought into the
haystack; a start bound past the end is not, and leaves no start. -/
def startsWithin (start stop : Int) : Set Nat :=
  {i | max start 0 ≤ i ∧ (i + pattern.length : Int) ≤ min (max stop 0) haystack.length
    ∧ OccursAt agree haystack pattern i}

end Search

/-! ### Slices that are there -/

namespace SearchRule

variable {α : Type} (r : SearchRule α) (haystack pattern : List α) (w : r.Window)

/-- A forward search of slices that are there is a scan under the rule. -/
theorem firstIndexOf_some (start : Int) :
    r.firstIndexOf (some haystack) (some pattern) start w
      = .ok (Scan.forward (r.agree w) haystack pattern start) :=
  rfl

/-- So is a backward search. -/
theorem lastIndexOf_some (limit : Int) :
    r.lastIndexOf (some haystack) (some pattern) limit w
      = .ok (Scan.backward (r.agree w) haystack pattern limit) :=
  rfl

/-- So is a search with an end bound. -/
theorem firstIndexOfWithin_some (start stop : Int) :
    r.firstIndexOfWithin (some haystack) (some pattern) start stop w
      = .ok (Scan.forwardWithin (r.agree w) haystack pattern start stop) :=
  rfl

end SearchRule

namespace Scan

open Search

variable {α β : Type} (agree : α → β → Bool) (haystack : List α) (pattern : List β)

/-! ### The scans in terms of starts -/

/-- **The forward scan answers with the first start from its bound on.** -/
theorem firstIn_startsFrom (start : Int) :
    FirstIn (startsFrom agree haystack pattern start) (forward agree haystack pattern start) := by
  have hstarts : startsFrom agree haystack pattern start
      = {i | min start.toNat haystack.length ≤ i ∧ OccursAt agree haystack pattern i} := by
    ext i
    -- a negative bound counts as the front, in integers as in natural numbers
    refine and_congr_left fun _ => ?_
    omega
  rw [hstarts]
  exact firstIn_forward agree haystack pattern start

/-- **The backward scan answers with the last start up to its limit.** -/
theorem lastIn_startsUpTo (limit : Int) :
    LastIn (startsUpTo agree haystack pattern limit) (backward agree haystack pattern limit) :=
  lastIn_backward agree haystack pattern limit

/-- **The bounded scan answers with the first start inside its bounds.** -/
theorem firstIn_startsWithin (start stop : Int) :
    FirstIn (startsWithin agree haystack pattern start stop)
      (forwardWithin agree haystack pattern start stop) := by
  have hstarts : startsWithin agree haystack pattern start stop
      = {i | start.toNat ≤ i ∧ i + pattern.length ≤ min stop.toNat haystack.length
        ∧ OccursAt agree haystack pattern i} := by
    ext i
    show _ ∧ _ ∧ _ ↔ _ ∧ _ ∧ _
    -- negative bounds count as zero here as well, and an occurrence is the same in both descriptions
    rw [← and_assoc, ← and_assoc]
    refine and_congr_left fun _ => ?_
    omega
  rw [hstarts]
  exact firstIn_forwardWithin agree haystack pattern start stop

/-! ### Every search for a pattern -/

/-- **A forward search finds the first start.** -/
theorem forward_finds_first_start (start : Int) :
    (∀ i, forward agree haystack pattern start = some i
        ↔ IsLeast (startsFrom agree haystack pattern start) i)
      ∧ (forward agree haystack pattern start = none
        ↔ startsFrom agree haystack pattern start = ∅)
      ∧ IndexedScan.forward agree haystack pattern start
        = .ok (forward agree haystack pattern start)
      ∧ ∀ {γ : Type} (r : SearchRule γ) (w : r.Window) (xs ys : List γ) (found : Option Nat),
        (r.firstIndexOf (some xs) (some ys) start w = .ok found
            ↔ FirstIn (startsFrom (r.agree w) xs ys start) found)
          ∧ (Slice.indexOfSeqWithin r xs ys start w = found
            ↔ FirstIn (startsFrom (r.agree w) xs ys start) found)
          ∧ (Slice.indexOfSeqFrom r xs ys start = found
            ↔ FirstIn (startsFrom (r.agree r.default) xs ys start) found)
          ∧ (Slice.indexOfSeq r xs ys = found
            ↔ FirstIn (startsFrom (r.agree r.default) xs ys 0) found) := by
  have hscan := firstIn_startsFrom agree haystack pattern start
  refine ⟨fun i => hscan.eq_iff (some i), hscan.eq_iff none,
    IndexedScan.forward_eq agree haystack pattern start, ?_⟩
  intro γ r w xs ys found
  -- the searches of slices scan under a rule, each from the bound and with the window that it has
  have hslice := firstIn_startsFrom (r.agree w) xs ys start
  refine ⟨?_, hslice.eq_iff found, (firstIn_startsFrom _ xs ys start).eq_iff found,
    (firstIn_startsFrom _ xs ys 0).eq_iff found⟩
  rw [r.firstIndexOf_some, Except.ok.injEq]
  exact hslice.eq_iff found

/-- **A backward search finds the last start.** -/
theorem backward_finds_last_start (limit : Int) :
    (limit < 0 → backward agree haystack pattern limit = none)
      ∧ (∀ i, backward agree haystack pattern limit = some i
        ↔ IsGreatest (startsUpTo agree haystack pattern limit) i)
      ∧ (backward agree haystack pattern limit = none
        ↔ startsUpTo agree haystack pattern limit = ∅)
      ∧ (0 ≤ limit →
        backward agree haystack ([] : List β) limit = some (min limit.toNat haystack.length))
      ∧ IndexedScan.backward agree haystack pattern limit
        = .ok (backward agree haystack pattern limit)
      ∧ ∀ {γ : Type} (r : SearchRule γ) (w : r.Window) (xs ys : List γ) (found : Option Nat),
        (r.lastIndexOf (some xs) (some ys) limit w = .ok found
            ↔ LastIn (startsUpTo (r.agree w) xs ys limit) found)
          ∧ (Slice.lastIndexOfSeqWithin r xs ys limit w = found
            ↔ LastIn (startsUpTo (r.agree w) xs ys limit) found)
          ∧ (Slice.lastIndexOfSeqFrom r xs ys limit = found
            ↔ LastIn (startsUpTo (r.agree r.default) xs ys limit) found)
          ∧ (Slice.lastIndexOfSeq r xs ys = found
            ↔ LastIn (startsUpTo (r.agree r.default) xs ys fromEnd.toInt) found) := by
  have hscan := lastIn_startsUpTo agree haystack pattern limit
  refine ⟨fun hneg => if_pos hneg, fun i => hscan.eq_iff (some i), hscan.eq_iff none, ?_,
    IndexedScan.backward_eq agree haystack pattern limit, ?_⟩
  · intro hlimit
    -- the limit and the end are the two bounds on where the empty pattern may start
    refine (lastIn_startsUpTo agree haystack [] limit).eq_some ⟨⟨?_, ?_⟩, ?_⟩
    · omega
    · exact occursAt_nil_iff.2 (Nat.min_le_right _ _)
    · rintro i ⟨hi, hoccurs⟩
      exact Nat.le_min.2 ⟨Int.le_toNat hlimit |>.2 hi, occursAt_nil_iff.1 hoccurs⟩
  intro γ r w xs ys found
  -- as with forward searches, each of them is a scan from its own limit
  have hslice := lastIn_startsUpTo (r.agree w) xs ys limit
  refine ⟨?_, hslice.eq_iff found, (lastIn_startsUpTo _ xs ys limit).eq_iff found,
    (lastIn_startsUpTo _ xs ys fromEnd.toInt).eq_iff found⟩
  rw [r.lastIndexOf_some, Except.ok.injEq]
  exact hslice.eq_iff found

/-- A limit below zero, the last of two starts, and the empty pattern at the end. -/
theorem backward_finds_last_start_smaller :
    ((-1 : Int) < 0 ∧ backward Agreement.less [1, 5, 2, 4, 3] [3, 6] (-1) = none)
      ∧ IsGreatest (startsUpTo Agreement.less [1, 5, 2, 4, 3] [3, 6] 9) 2
      ∧ ((0 : Int) ≤ 9 ∧ backward Agreement.less [1, 5, 2, 4, 3] [] 9 = some 5) := by
  have hfront := backward_finds_last_start Agreement.less [1, 5, 2, 4, 3] [3, 6] (-1)
  have hlast := backward_finds_last_start Agreement.less [1, 5, 2, 4, 3] [3, 6] 9
  refine ⟨⟨by decide, hfront.1 (by decide)⟩, ?_, ⟨by decide, hlast.2.2.2.1 (by decide)⟩⟩
  exact (hlast.2.1 2).1 (by decide)

/-- **A bounded search finds the first start of an occurrence inside its bounds.** -/
theorem forwardWithin_finds_first_start_inside (start stop : Int) :
    (∀ i, forwardWithin agree haystack pattern start stop = some i
        ↔ IsLeast (startsWithin agree haystack pattern start stop) i)
      ∧ (forwardWithin agree haystack pattern start stop = none
        ↔ startsWithin agree haystack pattern start stop = ∅)
      ∧ (∀ i, forwardWithin agree haystack pattern start stop = some i →
        start ≤ i ∧ (i + pattern.length : Int) ≤ max stop 0)
      ∧ IndexedScan.forwardWithin agree haystack pattern start stop
        = .ok (forwardWithin agree haystack pattern start stop)
      ∧ ∀ {γ : Type} (r : SearchRule γ) (w : r.Window) (xs ys : List γ) (found : Option Nat),
        r.firstIndexOfWithin (some xs) (some ys) start stop w = .ok found
          ↔ FirstIn (startsWithin (r.agree w) xs ys start stop) found := by
  have hscan := firstIn_startsWithin agree haystack pattern start stop
  refine ⟨fun i => hscan.eq_iff (some i), hscan.eq_iff none, ?_,
    IndexedScan.forwardWithin_eq agree haystack pattern start stop, ?_⟩
  · intro i hi
    -- what is found is inside, hence within the bounds as they were given
    obtain ⟨⟨hstart, hstop, -⟩, -⟩ := (hscan.eq_iff (some i)).1 hi
    exact ⟨le_trans (le_max_left start 0) hstart, le_trans hstop (min_le_left _ _)⟩
  · intro γ r w xs ys found
    rw [r.firstIndexOfWithin_some, Except.ok.injEq]
    exact (firstIn_startsWithin (r.agree w) xs ys start stop).eq_iff found

/-- The start at the front comes before the bounds, and what is found ends at the end bound. -/
theorem forwardWithin_finds_first_start_smaller :
    forwardWithin Agreement.less [1, 5, 2, 4, 3] [3, 6] 1 4 = some 2
      ∧ IsLeast (startsWithin Agreement.less [1, 5, 2, 4, 3] [3, 6] 1 4) 2
      ∧ (1 : Int) ≤ (2 : Nat) ∧ ((2 : Nat) + [(3 : Int), 6].length : Int) ≤ max 4 0 := by
  have hfound : forwardWithin Agreement.less [1, 5, 2, 4, 3] [3, 6] 1 4 = some 2 := by decide
  have hinside := forwardWithin_finds_first_start_inside Agreement.less [1, 5, 2, 4, 3] [3, 6] 1 4
  exact ⟨hfound, (hinside.1 2).1 hfound, hinside.2.2.1 2 hfound⟩

end Scan

end Haystack
