import Haystack.Search.Scan
import Mathlib.Order.Bounds.Basic
import Mathlib.Data.Set.Basic

/-!
# Scans answer with the first or the last occurrence

A search is specified by the set of starts that it may answer with: it gives the first one, or the last
one, and nothing exactly when there is none. `FirstIn` and `LastIn` say so of an optional position, and
this file proves it of the scans, with `OccursAt` to say where the pattern is:

* `firstIn_forward` — the forward scan gives the first occurrence from its bound on; a bound past the
  end counts as the end, where the empty pattern still occurs.
* `firstIn_forwardWithin` — the bounded scan gives the first occurrence that lies between its bounds.
* `lastIn_backward` — the backward scan gives the last occurrence up to its bound.

Nothing is assumed of the agreement of items, and the bounds are any integers. The two loops behind the
scans are `firstFrom` and `lastUpTo`; each has its statement, by induction along its recursion, of which
the scans are instances.
-/

namespace Haystack.Search

variable {α β : Type}

/-! ### Answers -/

/-- **The answer is the first of a set of starts**, if there is any. -/
def FirstIn (starts : Set Nat) : Option Nat → Prop
  | some i => IsLeast starts i
  | none => starts = ∅

/-- **The answer is the last of a set of starts**, if there is any. -/
def LastIn (starts : Set Nat) : Option Nat → Prop
  | some i => IsGreatest starts i
  | none => starts = ∅

section Answers

variable {starts : Set Nat} {found found' : Option Nat} {s : Nat}

/-- Nothing is the first answer if nothing is a start. -/
theorem firstIn_none_iff : FirstIn starts none ↔ ∀ i, i ∉ starts :=
  Set.eq_empty_iff_forall_notMem

/-- Nothing is the last answer if nothing is a start. -/
theorem lastIn_none_iff : LastIn starts none ↔ ∀ i, i ∉ starts :=
  Set.eq_empty_iff_forall_notMem

/-- Where there is a start, something is answered, and nothing comes before it. -/
theorem FirstIn.exists_le (h : FirstIn starts found) (hs : s ∈ starts) :
    ∃ i ≤ s, found = some i := by
  cases found with
  | none => exact absurd hs (firstIn_none_iff.1 h s)
  | some i => exact ⟨i, h.2 hs, rfl⟩

/-- Where there is a start, something is answered, and nothing comes after it. -/
theorem LastIn.exists_ge (h : LastIn starts found) (hs : s ∈ starts) :
    ∃ i ≥ s, found = some i := by
  cases found with
  | none => exact absurd hs (lastIn_none_iff.1 h s)
  | some i => exact ⟨i, h.2 hs, rfl⟩

/-- A set of starts has one first answer. -/
theorem FirstIn.unique (h : FirstIn starts found) (h' : FirstIn starts found') : found = found' := by
  cases found with
  | none =>
    cases found' with
    | none => rfl
    | some j =>
      -- the second answer is a start, so there is a first one
      obtain ⟨i, -, hi⟩ := h.exists_le h'.1
      exact absurd hi (Option.some_ne_none i).symm
  | some i =>
    obtain ⟨j, hj, rfl⟩ := h'.exists_le h.1
    exact congrArg some (le_antisymm (h.2 h'.1) hj)

/-- A set of starts has one last answer. -/
theorem LastIn.unique (h : LastIn starts found) (h' : LastIn starts found') : found = found' := by
  cases found with
  | none =>
    cases found' with
    | none => rfl
    | some j =>
      obtain ⟨i, -, hi⟩ := h.exists_ge h'.1
      exact absurd hi (Option.some_ne_none i).symm
  | some i =>
    obtain ⟨j, hj, rfl⟩ := h'.exists_ge h.1
    exact congrArg some (le_antisymm hj (h.2 h'.1))

/-- Only the first of the starts is the first answer. -/
theorem FirstIn.eq_iff (h : FirstIn starts found) (found' : Option Nat) :
    found = found' ↔ FirstIn starts found' := by
  constructor
  · rintro rfl
    exact h
  · exact h.unique

/-- Only the last of the starts is the last answer. -/
theorem LastIn.eq_iff (h : LastIn starts found) (found' : Option Nat) :
    found = found' ↔ LastIn starts found' := by
  constructor
  · rintro rfl
    exact h
  · exact h.unique

/-- The least of the starts is what is answered forwards. -/
theorem FirstIn.eq_some {i : Nat} (h : FirstIn starts found) (hi : IsLeast starts i) :
    found = some i :=
  (h.eq_iff (some i)).2 hi

/-- Without a start nothing is answered forwards. -/
theorem FirstIn.eq_none (h : FirstIn starts found) (hempty : ∀ i, i ∉ starts) : found = none :=
  (h.eq_iff none).2 (firstIn_none_iff.2 hempty)

/-- The greatest of the starts is what is answered backwards. -/
theorem LastIn.eq_some {i : Nat} (h : LastIn starts found) (hi : IsGreatest starts i) :
    found = some i :=
  (h.eq_iff (some i)).2 hi

/-- Without a start nothing is answered backwards. -/
theorem LastIn.eq_none (h : LastIn starts found) (hempty : ∀ i, i ∉ starts) : found = none :=
  (h.eq_iff none).2 (lastIn_none_iff.2 hempty)

end Answers

/-! ### Occurrences in parts of a list -/

section Occurrence

variable {agree : α → β → Bool} {xs : List α} {ys : List β}

/-- Dropping the first item moves every occurrence behind it one position down. -/
theorem occursAt_cons_succ_iff {x : α} {i : Nat} :
    OccursAt agree (x :: xs) ys (i + 1) ↔ OccursAt agree xs ys i := by
  simp only [OccursAt, List.length_cons, Nat.add_right_comm i 1, Nat.add_le_add_iff_right,
    List.getElem?_cons_succ]

/-- An occurrence in what is left from position `n` on. -/
theorem occursAt_drop_add_iff {n i : Nat} (h : n ≤ xs.length) :
    OccursAt agree (xs.drop n) ys i ↔ OccursAt agree xs ys (n + i) := by
  simp only [OccursAt, List.length_drop, List.getElem?_drop, Nat.add_assoc]
  constructor <;> rintro ⟨hle, h'⟩ <;> exact ⟨by omega, h'⟩

/-- An occurrence in the first `n` items is one that ends there. -/
theorem occursAt_take_iff {n i : Nat} (h : n ≤ xs.length) :
    OccursAt agree (xs.take n) ys i ↔ i + ys.length ≤ n ∧ OccursAt agree xs ys i := by
  -- the items that the pattern lies on are among the first `n` ones
  have hget : i + ys.length ≤ n →
      ∀ j y, ys[j]? = some y → (xs.take n)[i + j]? = xs[i + j]? := by
    intro hn j y hy
    obtain ⟨hj, -⟩ := List.getElem?_eq_some_iff.1 hy
    rw [List.getElem?_take, if_pos (by omega)]
  simp only [OccursAt, List.length_take, Nat.min_eq_left h]
  constructor
  · rintro ⟨hn, hagree⟩
    refine ⟨hn, by omega, fun j x y hx hy => hagree j x y ?_ hy⟩
    rw [hget hn j y hy]
    exact hx
  · rintro ⟨hn, -, hagree⟩
    refine ⟨hn, fun j x y hx hy => hagree j x y ?_ hy⟩
    rw [← hget hn j y hy]
    exact hx

end Occurrence

end Haystack.Search

namespace Haystack.Scan

open Haystack.Search

variable {α β : Type} (agree : α → β → Bool)

/-! ### The two loops -/

/-- **The forward loop** gives the first occurrence. Its argument `i` counts the items that were left
behind, so a position in the whole list is `i` more than one in the rest. -/
theorem firstIn_firstFrom (pattern : List β) (i : Nat) (haystack : List α) :
    FirstIn {j | i ≤ j ∧ OccursAt agree haystack pattern (j - i)}
      (firstFrom agree pattern i haystack) := by
  fun_induction firstFrom agree pattern i haystack with
  | case1 i haystack h =>
    -- the pattern occurs at the front, and nothing is before it
    rw [startsWith_iff] at h
    refine ⟨⟨le_rfl, ?_⟩, fun j hj => hj.1⟩
    rw [Nat.sub_self]
    exact h
  | case2 i h =>
    -- in an empty rest the only position left is the front
    refine firstIn_none_iff.2 fun j hj => ?_
    have hfits : j - i + pattern.length ≤ 0 := hj.2.1
    have hfront : OccursAt agree [] pattern 0 := by
      have hocc := hj.2
      rw [Nat.eq_zero_of_add_eq_zero_right (Nat.le_zero.1 hfits)] at hocc
      exact hocc
    exact h ((startsWith_iff agree _ _).2 hfront)
  | case3 i x rest h ih =>
    -- it does not, so all starts are behind the first item
    have hstarts : {j | i ≤ j ∧ OccursAt agree (x :: rest) pattern (j - i)}
        = {j | i + 1 ≤ j ∧ OccursAt agree rest pattern (j - (i + 1))} := by
      ext j
      rcases Nat.lt_trichotomy j i with hlt | rfl | hgt
      · refine ⟨fun hj => absurd hj.1 (by omega), fun hj => absurd hj.1 (by omega)⟩
      · refine ⟨fun hj => absurd ?_ h, fun hj => absurd hj.1 (by omega)⟩
        rw [startsWith_iff, ← Nat.sub_self j]
        exact hj.2
      · obtain ⟨k, rfl⟩ := Nat.exists_eq_add_of_lt hgt
        show i ≤ i + k + 1 ∧ OccursAt agree (x :: rest) pattern (i + k + 1 - i)
          ↔ i + 1 ≤ i + k + 1 ∧ OccursAt agree rest pattern (i + k + 1 - (i + 1))
        rw [show i + k + 1 - i = k + 1 by omega, show i + k + 1 - (i + 1) = k by omega,
          occursAt_cons_succ_iff]
        refine and_congr_left fun _ => ?_
        omega
    rw [hstarts]
    exact ih

/-- Where the front is the only start that is possible, it is the last one or there is none. -/
private theorem lastIn_front {starts : Set Nat} (honly : ∀ j ∈ starts, j = 0) :
    (0 ∈ starts → LastIn starts (some 0)) ∧ (0 ∉ starts → LastIn starts none) := by
  refine ⟨fun h0 => ⟨h0, fun j hj => (honly j hj).le⟩, fun h0 => ?_⟩
  refine lastIn_none_iff.2 fun j hj => h0 ?_
  rw [← honly j hj]
  exact hj

/-- If there is no occurrence behind the first item, the front is the only start. -/
private theorem front_only {pattern : List β} {limit : Nat} {x : α} {rest : List α}
    (hnone : lastUpTo agree pattern limit rest = none)
    (ih : LastIn {j | j ≤ limit ∧ OccursAt agree rest pattern j}
      (lastUpTo agree pattern limit rest)) :
    ∀ j ∈ {j | j ≤ limit + 1 ∧ OccursAt agree (x :: rest) pattern j}, j = 0 := by
  rw [hnone] at ih
  intro j hj
  -- a start behind the front would be an occurrence behind the first item
  cases j with
  | zero => rfl
  | succ j =>
    exact absurd ⟨Nat.le_of_succ_le_succ hj.1, occursAt_cons_succ_iff.1 hj.2⟩
      (lastIn_none_iff.1 ih j)

/-- A limit of zero and an empty haystack leave the front as the only start. -/
private theorem front_only_of_shape {pattern : List β} {limit : Nat} {haystack : List α}
    (hshape : ∀ (l : Nat) (x : α) (rest : List α), limit = l.succ → haystack = x :: rest → False) :
    ∀ j ∈ {j | j ≤ limit ∧ OccursAt agree haystack pattern j}, j = 0 := by
  rintro j ⟨hj, hfits, -⟩
  cases limit with
  | zero => exact Nat.le_zero.1 hj
  | succ l =>
    cases haystack with
    | nil => exact Nat.eq_zero_of_add_eq_zero_right (Nat.le_zero.1 hfits)
    | cons x rest => exact (hshape l x rest rfl rfl).elim

/-- **The backward loop** gives the last occurrence up to its limit. Its recursion looks behind the
first item before it looks at the front, so the front is answered only where it is the only start. -/
theorem lastIn_lastUpTo (pattern : List β) (limit : Nat) (haystack : List α) :
    LastIn {j | j ≤ limit ∧ OccursAt agree haystack pattern j}
      (lastUpTo agree pattern limit haystack) := by
  fun_induction lastUpTo agree pattern limit haystack with
  | case1 limit x rest i hi ih =>
    -- the last occurrence behind the first item is the last one of all
    rw [hi] at ih
    refine ⟨⟨Nat.succ_le_succ ih.1.1, occursAt_cons_succ_iff.2 ih.1.2⟩, fun j hj => ?_⟩
    cases j with
    | zero => exact Nat.zero_le _
    | succ j =>
      exact Nat.succ_le_succ (ih.2 ⟨Nat.le_of_succ_le_succ hj.1, occursAt_cons_succ_iff.1 hj.2⟩)
  | case2 limit x rest hnone hfront ih =>
    exact (lastIn_front (front_only agree hnone ih)).1 ⟨Nat.zero_le _, (startsWith_iff agree _ _).1 hfront⟩
  | case3 limit x rest hnone hfront ih =>
    exact (lastIn_front (front_only agree hnone ih)).2 fun h0 =>
      hfront ((startsWith_iff agree _ _).2 h0.2)
  | case4 limit haystack hfront hshape =>
    exact (lastIn_front (front_only_of_shape agree hshape)).1
      ⟨Nat.zero_le _, (startsWith_iff agree _ _).1 hfront⟩
  | case5 limit haystack hfront hshape =>
    exact (lastIn_front (front_only_of_shape agree hshape)).2 fun h0 =>
      hfront ((startsWith_iff agree _ _).2 h0.2)

/-! ### The scans -/

/-- **The forward scan** gives the first occurrence from its bound on. -/
theorem firstIn_forward (haystack : List α) (pattern : List β) (start : Int) :
    FirstIn {i | min start.toNat haystack.length ≤ i ∧ OccursAt agree haystack pattern i}
      (forward agree haystack pattern start) := by
  have hloop := firstIn_firstFrom agree pattern (min start.toNat haystack.length)
    (haystack.drop (min start.toNat haystack.length))
  -- from the bound on, occurrences are those in what is left, moved by the bound
  have hstarts : {i | min start.toNat haystack.length ≤ i ∧ OccursAt agree haystack pattern i}
      = {i | min start.toNat haystack.length ≤ i ∧ OccursAt agree
          (haystack.drop (min start.toNat haystack.length)) pattern
          (i - min start.toNat haystack.length)} := by
    ext i
    refine and_congr_right fun hi => ?_
    rw [occursAt_drop_add_iff (Nat.min_le_right _ _), Nat.add_sub_cancel' hi]
  rw [hstarts]
  exact hloop

/-- **The bounded forward scan** gives the first occurrence that lies between its bounds, the end bound
being brought into the haystack. -/
theorem firstIn_forwardWithin (haystack : List α) (pattern : List β) (start stop : Int) :
    FirstIn {i | start.toNat ≤ i ∧ i + pattern.length ≤ min stop.toNat haystack.length
        ∧ OccursAt agree haystack pattern i}
      (forwardWithin agree haystack pattern start stop) := by
  have hle : min stop.toNat haystack.length ≤ haystack.length := Nat.min_le_right _ _
  rw [forwardWithin]
  generalize min stop.toNat haystack.length = n at hle
  by_cases hcross : n < start.toNat
  · -- the bounds cross: no start is left, and the scan does not look
    simp only [hcross, if_true]
    refine firstIn_none_iff.2 fun i hi => ?_
    have hstart : start.toNat ≤ i := hi.1
    have hstop : i + pattern.length ≤ n := hi.2.1
    omega
  · simp only [hcross, if_false]
    have hscan := firstIn_forward agree (haystack.take n) pattern start
    -- occurrences among the first `n` items are those that end there
    have hstarts : {i | start.toNat ≤ i ∧ i + pattern.length ≤ n
          ∧ OccursAt agree haystack pattern i}
        = {i | min start.toNat (haystack.take n).length ≤ i
          ∧ OccursAt agree (haystack.take n) pattern i} := by
      ext i
      rw [List.length_take, Nat.min_eq_left hle, Nat.min_eq_left (Nat.not_lt.1 hcross)]
      exact and_congr_right fun _ => (occursAt_take_iff hle).symm
    rw [hstarts]
    exact hscan

/-- **The backward scan** gives the last occurrence up to its bound; below zero there is none. -/
theorem lastIn_backward (haystack : List α) (pattern : List β) (limit : Int) :
    LastIn {i : Nat | (i : Int) ≤ limit ∧ OccursAt agree haystack pattern i}
      (backward agree haystack pattern limit) := by
  rw [backward]
  split
  · next hneg =>
    -- no position is below zero
    refine lastIn_none_iff.2 fun i hi => ?_
    have hlimit : (i : Int) ≤ limit := hi.1
    omega
  · next hneg =>
    -- a limit that is not negative is the same as a natural number
    have hstarts : {i : Nat | (i : Int) ≤ limit ∧ OccursAt agree haystack pattern i}
        = {i | i ≤ limit.toNat ∧ OccursAt agree haystack pattern i} := by
      ext i
      refine and_congr_left fun _ => ?_
      omega
    rw [hstarts]
    exact lastIn_lastUpTo agree pattern limit.toNat haystack

end Haystack.Scan
