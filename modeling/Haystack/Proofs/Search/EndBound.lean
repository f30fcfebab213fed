import Haystack.Proofs.Search.Starts
import Haystack.Search.Query

/-!
# An end bound only filters

A forward search with an end bound is another scan than one without: it looks at the front part of the
haystack only, and gives up at once when its bounds cross. What it answers is nevertheless the answer of
the search without the bound, or nothing: it never goes on to look for a later occurrence, and never finds
an earlier one. So the scan that is bounded is the scan that is not, followed by a test of what was found
(`Scan.forwardWithin_eq_filter`).

The reason is that the bound leaves an initial part of the starts. If the first start of all is not within
the bounds, then no later one is: it would end even later. The start bound is a part of the test as well,
because the search without an end bound takes a start bound past the end for the end.

That is the one corner in which an end bound at the end of the haystack, or behind it, makes a difference:
the empty pattern is found at the end when the search may start nowhere, unless there is an end bound
(`Scan.forwardWithin_ne_forward_iff`). `Options.end_bound_filters` says both of queries.
-/

namespace Haystack

namespace Search

/-! ### Tests of what was found -/

/-- **The first of the starts that pass a test** is the first of all starts, or nothing if that one does not
pass, where no start passes after one that did not. -/
theorem FirstIn.filter {starts : Set Nat} {found : Option Nat} (h : FirstIn starts found)
    (keep : Nat → Prop) [DecidablePred keep]
    (hinitial : ∀ i ∈ starts, ∀ j ∈ starts, i ≤ j → keep j → keep i) :
    FirstIn {i | i ∈ starts ∧ keep i} (found.filter fun i => decide (keep i)) := by
  cases found with
  | none =>
    apply firstIn_none_iff.2
    rintro i ⟨hi, -⟩
    exact firstIn_none_iff.1 h i hi
  | some i =>
    by_cases hkeep : keep i
    · have hpass : (some i).filter (fun i => decide (keep i)) = some i :=
        Option.filter_some_pos (decide_eq_true hkeep)
      rw [hpass]
      exact ⟨⟨h.1, hkeep⟩, fun j hj => h.2 hj.1⟩
    · have hfail : (some i).filter (fun i => decide (keep i)) = none :=
        Option.filter_some_neg (decide_eq_false hkeep)
      rw [hfail]
      apply firstIn_none_iff.2
      rintro j ⟨hj, hkeepj⟩
      -- the first start comes before `j`, so it would pass with it
      exact hkeep (hinitial i h.1 j hj (h.2 hj) hkeepj)

/-- **What begins at `i` and has `m` items lies within the bounds**, in a haystack of `n` items. The end bound
is brought into the haystack; the start bound is not. -/
def Inside (start stop : Int) (n m i : Nat) : Prop :=
  max start 0 ≤ i ∧ (i + m : Int) ≤ min (max stop 0) n

/-- Whether a start lies within the bounds is decided by comparisons. -/
instance (start stop : Int) (n m : Nat) : DecidablePred (Inside start stop n m) := fun _ =>
  inferInstanceAs (Decidable (_ ∧ _))

section Starts

variable {α β : Type} {agree : α → β → Bool} {haystack : List α} {pattern : List β}
  {start stop : Int}

/-- The starts inside the bounds are those of the starts that the bounds leave. -/
theorem mem_startsWithin_iff {i : Nat} :
    i ∈ startsWithin agree haystack pattern start stop
      ↔ i ∈ startsFrom agree haystack pattern start
        ∧ Inside start stop haystack.length pattern.length i := by
  constructor
  · rintro ⟨hstart, hstop, hoccurs⟩
    exact ⟨⟨le_trans (min_le_left _ _) hstart, hoccurs⟩, hstart, hstop⟩
  · rintro ⟨⟨-, hoccurs⟩, hstart, hstop⟩
    exact ⟨hstart, hstop, hoccurs⟩

/-- The bounds leave an initial part of the starts. -/
theorem inside_of_le {i j : Nat} (hi : i ∈ startsFrom agree haystack pattern start)
    (hj : j ∈ startsFrom agree haystack pattern start) (hij : i ≤ j)
    (hinside : Inside start stop haystack.length pattern.length j) :
    Inside start stop haystack.length pattern.length i := by
  obtain ⟨hfrom, -⟩ := hi
  obtain ⟨-, hfits, -⟩ := hj
  obtain ⟨hstart, hstop⟩ := hinside
  constructor
  · -- `j` is in the haystack and not before the start bound, so this one is in the haystack as well
    have hbound : max start 0 ≤ (haystack.length : Int) := by omega
    rw [min_eq_left hbound] at hfrom
    exact hfrom
  · calc (i + pattern.length : Int) ≤ j + pattern.length := by omega
      _ ≤ min (max stop 0) haystack.length := hstop

/-- The starts that an end bound behind the haystack takes away: the end, for the empty pattern, if the
start bound is past it. -/
theorem not_inside_iff (hend : (haystack.length : Int) ≤ stop) {i : Nat}
    (hi : i ∈ startsFrom agree haystack pattern start) :
    ¬Inside start stop haystack.length pattern.length i
      ↔ pattern.length = 0 ∧ (haystack.length : Int) < start := by
  obtain ⟨hfrom, hfits, -⟩ := hi
  unfold Inside
  omega

/-- A start bound past the end leaves the empty pattern the end. -/
theorem length_mem_startsFrom (hempty : pattern.length = 0) :
    haystack.length ∈ startsFrom agree haystack pattern start := by
  obtain rfl := List.length_eq_zero_iff.1 hempty
  exact ⟨min_le_right _ _, occursAt_nil_iff.2 le_rfl⟩

end Starts

end Search

namespace Scan

open Search

variable {α β : Type} (agree : α → β → Bool) (haystack : List α) (pattern : List β)

/-! ### Scans -/

/-- **The bounded scan is the scan without an end bound, filtered.** -/
theorem forwardWithin_eq_filter (start stop : Int) :
    forwardWithin agree haystack pattern start stop
      = (forward agree haystack pattern start).filter fun i =>
        decide (Inside start stop haystack.length pattern.length i) := by
  have hbounded := firstIn_startsWithin agree haystack pattern start stop
  have hstarts : startsWithin agree haystack pattern start stop
      = {i | i ∈ startsFrom agree haystack pattern start
        ∧ Inside start stop haystack.length pattern.length i} := by
    ext i
    exact mem_startsWithin_iff
  rw [hstarts] at hbounded
  apply hbounded.unique
  apply (firstIn_startsFrom agree haystack pattern start).filter
  intro i hi j hj hij
  exact inside_of_le hi hj hij

/-- **The one corner in which an end bound behind the haystack makes a difference.** -/
theorem forwardWithin_ne_forward_iff (start : Int) {stop : Int} (hend : (haystack.length : Int) ≤ stop) :
    forwardWithin agree haystack pattern start stop ≠ forward agree haystack pattern start
      ↔ pattern.length = 0 ∧ (haystack.length : Int) < start := by
  have hfirst := firstIn_startsFrom agree haystack pattern start
  rw [forwardWithin_eq_filter]
  cases hfound : forward agree haystack pattern start with
  | none =>
    rw [hfound] at hfirst
    refine iff_of_false (not_not_intro rfl) ?_
    rintro ⟨hempty, -⟩
    -- the empty pattern is always found
    exact firstIn_none_iff.1 hfirst _ (length_mem_startsFrom hempty)
  | some i =>
    rw [hfound] at hfirst
    rw [← not_inside_iff hend hfirst.1, Ne, Option.filter_eq_some_iff]
    simp

end Scan

namespace Options

variable {ε : Type} (o : Options) (equal : ε → ε → Bool)

/-! ### Queries -/

/-- The options with an end bound or without one. -/
def stoppingAt (stop? : Option Int64) : Options :=
  { o with stop? := stop? }

/-- **Arrays are scanned as two lists of items, or refused**, whatever the options are. -/
theorem scanArrays_eq_scan_or_error (t : Tolerance .double) (h p : TypedArray ε) :
    (∃ (α : Type) (agree : α → α → Bool) (xs ys : List α),
        xs.length = h.length ∧ ys.length = p.length
          ∧ ∀ (o : Options) d, o.scanArrays d equal t h p = .ok (o.scan d agree xs ys))
      ∨ ∃ e, ∀ (o : Options) d, o.scanArrays d equal t h p = .error e := by
  rcases h with ⟨k, xs⟩ | xs <;> rcases p with ⟨l, ys⟩ | ys
  · -- two flat arrays are scanned if their kinds are the same
    by_cases hkl : l = k
    · subst hkl
      exact .inl ⟨l.Item, l.searchRule.agree (l.windowOf t), xs, ys, rfl, rfl, fun _ _ => dif_pos rfl⟩
    · exact .inr ⟨_, fun _ _ => dif_neg hkl⟩
  · exact .inr ⟨_, fun _ _ => rfl⟩
  · exact .inr ⟨_, fun _ _ => rfl⟩
  · exact .inl ⟨ε, equal, xs, ys, rfl, rfl, fun _ _ => rfl⟩

/-- **The end bound has no say in a forward query until lists are scanned.** A query is refused for one
reason, finds nothing in an absent haystack, or scans the items of two arrays, whatever the end bound
is. -/
theorem firstIndexOf_stoppingAt_cases (h? p? : Option (TypedArray ε)) :
    (∃ e, ∀ stop?, (o.stoppingAt stop?).firstIndexOf equal h? p? = .error e)
      ∨ (h? = none ∧ ∀ stop?, (o.stoppingAt stop?).firstIndexOf equal h? p? = .ok none)
      ∨ ∃ h p, h? = some h ∧ p? = some p
        ∧ ∃ (α : Type) (agree : α → α → Bool) (xs ys : List α),
          xs.length = h.length ∧ ys.length = p.length
            ∧ ∀ stop?, (o.stoppingAt stop?).firstIndexOf equal h? p?
              = .ok ((o.stoppingAt stop?).scan .forward agree xs ys) := by
  cases p? with
  | none => exact .inl ⟨.nullPattern, fun _ => rfl⟩
  | some p =>
    have hlocate : ∀ stop?, (o.stoppingAt stop?).firstIndexOf equal h? (some p)
        = (o.stoppingAt stop?).locate .forward equal h? p := fun _ => rfl
    have hwindow : ∀ stop?, (o.stoppingAt stop?).window = o.window := fun _ => rfl
    have htolerance : ∀ stop?, (o.stoppingAt stop?).tolerance? = o.tolerance? := fun _ => rfl
    -- a forward search has a use for an end bound, so the check of it refuses nothing
    have hcheck : ∀ b : Bool, ¬(Direction.forward = .backward ∧ b = true) := by
      rintro b ⟨hd, -⟩
      cases hd
    simp only [hlocate, locate, hwindow, htolerance, hcheck, if_false]
    cases o.window with
    | error e => exact .inl ⟨e, fun _ => rfl⟩
    | ok t =>
      by_cases hkind : o.tolerance?.isSome ∧ ¬p.kind.supportsTolerance
      · exact .inl ⟨_, fun _ => if_pos hkind⟩
      · simp only [hkind, if_false]
        cases h? with
        | none => exact .inr (.inl ⟨rfl, fun _ => rfl⟩)
        | some h =>
          -- the checks are passed, and what is left does not look at the options
          rcases scanArrays_eq_scan_or_error equal t h p with
            ⟨α, agree, xs, ys, hxs, hys, hscan⟩ | ⟨e, herror⟩
          · exact .inr (.inr ⟨h, p, rfl, rfl, α, agree, xs, ys, hxs, hys, fun _ => hscan _ _⟩)
          · exact .inl ⟨e, fun _ => herror _ _⟩

/-- The number of items of an array, if there is one. -/
def lengthOf (a? : Option (TypedArray ε)) : Nat :=
  (a?.map TypedArray.length).getD 0

/-- What an end bound makes of the answer that is found without it. -/
def filterInside (stop : Int64) (h? p? : Option (TypedArray ε)) (found : Option Nat) : Option Nat :=
  found.filter fun i =>
    decide (Search.Inside o.forwardStart.toInt stop.toInt (lengthOf h?) (lengthOf p?) i)

/-- **A query with an end bound is the query without one**, and a filter. -/
theorem firstIndexOf_withStop (stop : Int64) (h? p? : Option (TypedArray ε)) :
    (o.withStop stop).firstIndexOf equal h? p?
      = ((o.stoppingAt none).firstIndexOf equal h? p?).map (o.filterInside stop h? p?) := by
  have hwithStop : o.withStop stop = o.stoppingAt (some stop) := rfl
  rcases o.firstIndexOf_stoppingAt_cases equal h? p? with
    ⟨e, herror⟩ | ⟨-, hnone⟩ | ⟨h, p, rfl, rfl, α, agree, xs, ys, hxs, hys, hscan⟩
  · rw [hwithStop, herror, herror]
    rfl
  · rw [hwithStop, hnone, hnone]
    rfl
  · rw [hwithStop, hscan, hscan, Except.map, Except.ok.injEq]
    -- both scan the same two lists
    show Scan.forwardWithin agree xs ys o.forwardStart.toInt stop.toInt
      = (Scan.forward agree xs ys o.forwardStart.toInt).filter fun i =>
        decide (Search.Inside o.forwardStart.toInt stop.toInt h.length p.length i)
    rw [← hxs, ← hys]
    exact Scan.forwardWithin_eq_filter ..

/-- **The corner in which an end bound behind the haystack matters** to a query that is answered. -/
theorem firstIndexOf_withStop_ne_iff {stop : Int64} {h p : TypedArray ε} {found : Option Nat}
    (hfound : (o.stoppingAt none).firstIndexOf equal (some h) (some p) = .ok found)
    (hend : (h.length : Int) ≤ stop.toInt) :
    (o.withStop stop).firstIndexOf equal (some h) (some p)
        ≠ (o.stoppingAt none).firstIndexOf equal (some h) (some p)
      ↔ p.length = 0 ∧ (h.length : Int) < o.forwardStart.toInt := by
  have hwithStop : o.withStop stop = o.stoppingAt (some stop) := rfl
  rcases o.firstIndexOf_stoppingAt_cases equal (some h) (some p) with
    ⟨e, herror⟩ | ⟨habsent, -⟩ | ⟨h', p', hh, hp, α, agree, xs, ys, hxs, hys, hscan⟩
  · rw [herror] at hfound
    cases hfound
  · cases habsent
  · obtain rfl := Option.some.inj hh
    obtain rfl := Option.some.inj hp
    rw [hwithStop, hscan, hscan, ← hxs, ← hys, Ne, Except.ok.injEq]
    rw [← hxs] at hend
    exact Scan.forwardWithin_ne_forward_iff agree xs ys o.forwardStart.toInt hend

/-- **An end bound only filters.** A query with one is refused for the same reason as without it, or its
answer is the one without it if that lies within the bounds, and nothing otherwise; so it never is another
position. If the query is answered and the end bound leaves all of the haystack, then the two differ
exactly when the pattern is empty and the start bound is past the end. -/
theorem end_bound_filters (stop : Int64) (h? p? : Option (TypedArray ε)) :
    (o.withStop stop).firstIndexOf equal h? p?
        = ((o.stoppingAt none).firstIndexOf equal h? p?).map (Option.filter fun i =>
          decide (Search.Inside o.forwardStart.toInt stop.toInt (lengthOf h?) (lengthOf p?) i))
      ∧ (∀ e, (o.withStop stop).firstIndexOf equal h? p? = .error e
        ↔ (o.stoppingAt none).firstIndexOf equal h? p? = .error e)
      ∧ (∀ i, (o.withStop stop).firstIndexOf equal h? p? = .ok (some i) →
        (o.stoppingAt none).firstIndexOf equal h? p? = .ok (some i))
      ∧ ∀ h p found, h? = some h → p? = some p →
        (o.stoppingAt none).firstIndexOf equal h? p? = .ok found → (h.length : Int) ≤ stop.toInt →
          ((o.withStop stop).firstIndexOf equal h? p?
              ≠ (o.stoppingAt none).firstIndexOf equal h? p?
            ↔ p.length = 0 ∧ (h.length : Int) < o.forwardStart.toInt) := by
  have hfilter := o.firstIndexOf_withStop equal stop h? p?
  refine ⟨hfilter, fun e => ?_, fun i hi => ?_, ?_⟩
  · -- a filter makes no refusal and takes none away
    rw [hfilter]
    cases (o.stoppingAt none).firstIndexOf equal h? p? <;> simp [Except.map]
  · -- what passes the filter is what was found without the bound
    rw [hfilter] at hi
    cases hfound : (o.stoppingAt none).firstIndexOf equal h? p? with
    | error e =>
      rw [hfound] at hi
      cases hi
    | ok found =>
      rw [hfound, Except.map, Except.ok.injEq, filterInside, Option.filter_eq_some_iff] at hi
      rw [hi.1]
  · rintro h p found rfl rfl hfound hend
    exact o.firstIndexOf_withStop_ne_iff equal hfound hend

/-- In `[1, 2]` the empty pattern is found at the end if the search starts behind it, and it is not found
any more if the search has to stop, be it as far behind. The pattern `[2]` is found before an end bound of
`2`, where it is found without one, but not before `1`. -/
theorem end_bound_filters_emptyPattern :
    (((empty.withStart 5).stoppingAt none).firstIndexOf (fun x y : Nat => x == y)
          (some (.flat ⟨.int32, [1, 2]⟩)) (some (.flat ⟨.int32, []⟩)) = .ok (some 2)
        ∧ ((empty.withStart 5).withStop 9).firstIndexOf (fun x y : Nat => x == y)
          (some (.flat ⟨.int32, [1, 2]⟩)) (some (.flat ⟨.int32, []⟩))
            ≠ ((empty.withStart 5).stoppingAt none).firstIndexOf (fun x y : Nat => x == y)
              (some (.flat ⟨.int32, [1, 2]⟩)) (some (.flat ⟨.int32, []⟩)))
      ∧ (empty.withStop 2).firstIndexOf (fun x y : Nat => x == y)
          (some (.flat ⟨.int32, [1, 2]⟩)) (some (.flat ⟨.int32, [2]⟩)) = .ok (some 1)
      ∧ (empty.stoppingAt none).firstIndexOf (fun x y : Nat => x == y)
          (some (.flat ⟨.int32, [1, 2]⟩)) (some (.flat ⟨.int32, [2]⟩)) = .ok (some 1)
      ∧ (empty.withStop 1).firstIndexOf (fun x y : Nat => x == y)
          (some (.flat ⟨.int32, [1, 2]⟩)) (some (.flat ⟨.int32, [2]⟩)) = .ok none := by
  have hend : ((empty.withStart 5).stoppingAt none).firstIndexOf (fun x y : Nat => x == y)
      (some (.flat ⟨.int32, [1, 2]⟩)) (some (.flat ⟨.int32, []⟩)) = .ok (some 2) := by decide
  have htwo : (empty.withStop 2).firstIndexOf (fun x y : Nat => x == y)
      (some (.flat ⟨.int32, [1, 2]⟩)) (some (.flat ⟨.int32, [2]⟩)) = .ok (some 1) := by decide
  have hcorner := (end_bound_filters (empty.withStart 5) (fun x y : Nat => x == y) 9
    (some (.flat ⟨.int32, [1, 2]⟩)) (some (.flat ⟨.int32, []⟩))).2.2.2
  have hsame := (end_bound_filters empty (fun x y : Nat => x == y) 2
    (some (.flat ⟨.int32, [1, 2]⟩)) (some (.flat ⟨.int32, [2]⟩))).2.2.1
  refine ⟨⟨hend, ?_⟩, htwo, hsame 1 htwo, by decide⟩
  exact (hcorner _ _ _ rfl rfl hend (by decide)).2 (by decide)

end Options

end Haystack
