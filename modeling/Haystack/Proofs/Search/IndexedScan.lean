import Haystack.Proofs.Search.Scan
import Haystack.Search.IndexedScan

/-!
# Scans by position read in range and answer as the scans of lists

A scan by position computes where it reads, leaves early, and compares along a part of the haystack that
could be too short. None of this can be seen from outside: the scan always ends without a read that is
out of range, and its answer is that of the scan which walks down the list and compares at every start
(`forward_eq`, `backward_eq`, `forwardWithin_eq`).

The proof separates the loop from what it tries. At a start at which the pattern fits, the reads are in
range and the part is long enough, so trying the start decides whether the pattern occurs there
(`occursForwards_eq`, `occursBackwards_eq`). A loop over starts in ascending or in descending order then
finds the first or the last of them at which the pattern occurs (`firstIn_find?`, `lastIn_find?`). What is
left are the starts that the loop never tries: there the pattern does not fit, and the early exits are the
cases in which the loop would have nothing to do.
-/

namespace Haystack

namespace Search

variable {α β : Type}

/-! ### Loops over starts -/

section Loop

variable {p : Nat → Bool} {l : List Nat}

/-- In a list in some order, what is found comes before everything else that could have been. -/
private theorem eq_or_rel_of_find?_eq_some {R : Nat → Nat → Prop} (hl : l.Pairwise R) {i j : Nat}
    (hi : l.find? p = some i) (hj : j ∈ l) (hp : p j = true) : j = i ∨ R i j := by
  obtain ⟨-, before, after, rfl, hbefore⟩ := List.find?_eq_some_iff_append.1 hi
  rcases List.mem_append.1 hj with hmem | hmem
  · -- nothing before the find could have been found
    have hnot := hbefore j hmem
    rw [hp] at hnot
    exact absurd hnot (by decide)
  · rcases List.mem_cons.1 hmem with hji | hmem
    · exact .inl hji
    · exact .inr (List.rel_of_pairwise_cons (List.pairwise_append.1 hl).2.1 hmem)

/-- A loop over starts in ascending order finds the first of them. -/
theorem firstIn_find? (hl : l.Pairwise (· < ·)) : FirstIn {i | i ∈ l ∧ p i = true} (l.find? p) := by
  cases hfind : l.find? p with
  | none =>
    refine firstIn_none_iff.2 ?_
    rintro i ⟨hi, hp⟩
    exact List.find?_eq_none.1 hfind i hi hp
  | some i =>
    refine ⟨⟨List.mem_of_find?_eq_some hfind, List.find?_some hfind⟩, ?_⟩
    rintro j ⟨hj, hp⟩
    rcases eq_or_rel_of_find?_eq_some hl hfind hj hp with rfl | hlt
    · exact le_rfl
    · exact hlt.le

/-- A loop over starts in descending order finds the last of them. -/
theorem lastIn_find? (hl : l.Pairwise (· > ·)) : LastIn {i | i ∈ l ∧ p i = true} (l.find? p) := by
  cases hfind : l.find? p with
  | none =>
    refine lastIn_none_iff.2 ?_
    rintro i ⟨hi, hp⟩
    exact List.find?_eq_none.1 hfind i hi hp
  | some i =>
    refine ⟨⟨List.mem_of_find?_eq_some hfind, List.find?_some hfind⟩, ?_⟩
    rintro j ⟨hj, hp⟩
    rcases eq_or_rel_of_find?_eq_some hl hfind hj hp with rfl | hgt
    · exact le_rfl
    · exact hgt.le

end Loop

/-! ### Comparing along a part -/

variable {agree : α → β → Bool} {xs : List α} {ys : List β}

/-- Where the haystack is long enough, comparing along both lists leaves out nothing of the pattern. -/
theorem startsWith_eq_all_zip (h : ys.length ≤ xs.length) :
    startsWith agree xs ys = (ys.zip xs).all fun (y, x) => agree x y := by
  -- induction on the pattern, with the haystack at least as long all the way
  induction ys generalizing xs with
  | nil => rw [startsWith, List.zip_nil_left, List.all_nil]
  | cons y ys ih =>
    cases xs with
    | nil => exact absurd h (Nat.not_succ_le_zero _)
    | cons x xs => rw [startsWith, ih (Nat.le_of_succ_le_succ h), List.zip_cons_cons, List.all_cons]

/-- The items behind those that the pattern lies on do not matter. -/
theorem startsWith_take_length : startsWith agree (xs.take ys.length) ys = startsWith agree xs ys := by
  induction ys generalizing xs with
  | nil => rw [startsWith, startsWith]
  | cons y ys ih =>
    cases xs with
    | nil => rfl
    | cons x xs => rw [List.length_cons, List.take_succ_cons, startsWith, startsWith, ih]

/-- The last item of the pattern can be compared by itself. -/
theorem startsWith_append_singleton {y : β} (h : ys.length < xs.length) :
    startsWith agree xs (ys ++ [y]) = (agree xs[ys.length] y && startsWith agree xs ys) := by
  induction ys generalizing xs with
  | nil =>
    cases xs with
    | nil => exact absurd h (Nat.not_lt_zero _)
    | cons x xs => simp [startsWith]
  | cons z ys ih =>
    cases xs with
    | nil => exact absurd h (Nat.not_lt_zero _)
    | cons x xs =>
      -- the last item is compared first, whatever stands before it
      rw [List.cons_append, startsWith, startsWith, ih (Nat.lt_of_succ_lt_succ h)]
      simp only [List.length_cons, List.getElem_cons_succ]
      rw [Bool.and_left_comm]

/-- The empty pattern occurs everywhere, the end included. -/
theorem occursAt_nil_iff {i : Nat} : OccursAt agree xs [] i ↔ i ≤ xs.length := by
  simp [OccursAt]

/-- Walking along what is left decides the occurrence at a position. -/
theorem startsWith_drop_iff {i : Nat} (h : i ≤ xs.length) :
    startsWith agree (xs.drop i) ys = true ↔ OccursAt agree xs ys i := by
  rw [startsWith_iff, occursAt_drop_iff agree ys h]

end Search

namespace IndexedScan

open Search

variable {α β : Type} (agree : α → β → Bool)

/-! ### Reads in range -/

/-- An item is read where there is one. -/
theorem item_eq_ok {xs : List α} {i : Nat} (h : i < xs.length) : item xs i = .ok xs[i] := by
  rw [item, List.getElem?_eq_getElem h]

/-- A part is read between positions that are in order and in the list. -/
theorem part_eq_ok {xs : List α} {i j : Nat} (hij : i ≤ j) (hj : j ≤ xs.length) :
    part xs i j = .ok ((xs.take j).drop i) :=
  if_pos ⟨hij, hj⟩

/-! ### Trying one start -/

/-- Forwards, trying a start at which the pattern fits decides whether it occurs there. -/
theorem occursForwards_eq {haystack : List α} {first : β} {rest : List β} {i : Nat}
    (h : i + (first :: rest).length ≤ haystack.length) :
    occursForwards agree haystack first rest i
      = .ok (startsWith agree (haystack.drop i) (first :: rest)) := by
  rw [List.length_cons] at h
  have hi : i < haystack.length := by omega
  -- the part behind the first item is there, and the rest of the pattern fits into it
  have hpart : part haystack (i + 1) haystack.length = .ok (haystack.drop (i + 1)) := by
    rw [part_eq_ok hi le_rfl, List.take_length]
  have hlong : rest.length ≤ (haystack.drop (i + 1)).length := by
    rw [List.length_drop]
    omega
  have htry : occursForwards agree haystack first rest i
      = if agree haystack[i] first then
          .ok ((rest.zip (haystack.drop (i + 1))).all fun (y, x) => agree x y)
        else .ok false := by
    rw [occursForwards, item_eq_ok hi, hpart]
    rfl
  rw [htry, List.drop_eq_getElem_cons hi, startsWith, startsWith_eq_all_zip hlong]
  cases agree haystack[i] first with
  | true => rfl
  | false => rfl

/-- Backwards, trying a start at which the pattern fits decides whether it occurs there. -/
theorem occursBackwards_eq {haystack : List α} {rest : List β} {last : β} {i : Nat}
    (h : i + (rest ++ [last]).length ≤ haystack.length) :
    occursBackwards agree haystack rest last i
      = .ok (startsWith agree (haystack.drop i) (rest ++ [last])) := by
  rw [List.length_append, List.length_singleton] at h
  have hi : i + rest.length < haystack.length := by omega
  -- the part before the last item is there, and the rest of the pattern fills it
  have hpart : part haystack i (i + rest.length) = .ok ((haystack.drop i).take rest.length) := by
    rw [part_eq_ok (Nat.le_add_right _ _) hi.le, List.take_drop]
  have hdrop : rest.length < (haystack.drop i).length := by
    rw [List.length_drop]
    omega
  have hlong : rest.length ≤ ((haystack.drop i).take rest.length).length := by
    rw [List.length_take]
    omega
  have htry : occursBackwards agree haystack rest last i
      = if agree haystack[i + rest.length] last then
          .ok ((rest.zip ((haystack.drop i).take rest.length)).reverse.all fun (y, x) => agree x y)
        else .ok false := by
    rw [occursBackwards, item_eq_ok hi, hpart]
    rfl
  rw [htry, startsWith_append_singleton hdrop, List.getElem_drop, ← startsWith_take_length,
    startsWith_eq_all_zip hlong, List.all_reverse]
  cases agree haystack[i + rest.length] last with
  | true => rfl
  | false => rfl

/-! ### The loops -/

/-- **A loop whose tries all read in range** is a loop that reads nothing. -/
theorem findM?_eq_ok {ε ι : Type} {test : ι → Except ε Bool} {p : ι → Bool} {l : List ι}
    (h : ∀ i ∈ l, test i = .ok (p i)) : l.findM? test = .ok (l.find? p) := by
  induction l with
  | nil => rfl
  | cons i l ih =>
    rw [List.findM?, h i List.mem_cons_self, List.find?_cons]
    -- the first try that succeeds ends both loops
    cases p i with
    | true => rfl
    | false => exact ih fun j hj => h j (List.mem_cons_of_mem i hj)

/-- The forward loop finds the first occurrence from `start` on. It ends with the last start at which the
pattern fits, so every read is in range, and the starts behind it are no occurrences. -/
theorem firstIn_forwardLoop {haystack : List α} {first : β} {rest : List β} (start : Nat)
    (hfit : (first :: rest).length ≤ haystack.length) :
    ∃ found, (List.range' start (haystack.length - (first :: rest).length + 1 - start)).findM?
        (occursForwards agree haystack first rest) = .ok found
      ∧ FirstIn {i | start ≤ i ∧ OccursAt agree haystack (first :: rest) i} found := by
  generalize hn : haystack.length - (first :: rest).length + 1 - start = n
  have htry : ∀ i ∈ List.range' start n, occursForwards agree haystack first rest i
      = .ok (startsWith agree (haystack.drop i) (first :: rest)) := by
    intro i hi
    rw [List.mem_range'_1] at hi
    exact occursForwards_eq agree (by omega)
  refine ⟨_, findM?_eq_ok htry, ?_⟩
  -- the starts that are tried are those at which the pattern fits
  have hstarts : {i | start ≤ i ∧ OccursAt agree haystack (first :: rest) i}
      = {i | i ∈ List.range' start n
        ∧ startsWith agree (haystack.drop i) (first :: rest) = true} := by
    ext i
    simp only [Set.mem_ofPred_eq, List.mem_range'_1]
    constructor
    · rintro ⟨hi, hoccurs⟩
      have hle := hoccurs.1
      exact ⟨by omega, (startsWith_drop_iff (by omega)).2 hoccurs⟩
    · rintro ⟨⟨hi, hlast⟩, hstarts⟩
      exact ⟨hi, (startsWith_drop_iff (by omega)).1 hstarts⟩
  rw [hstarts]
  exact firstIn_find? List.pairwise_lt_range'

/-- The backward loop finds the last occurrence up to `start`, where `start` is a start at which the
pattern fits and with it every start before. -/
theorem lastIn_backwardLoop {haystack : List α} {rest : List β} {last : β} {start : Nat}
    (hfit : start + (rest ++ [last]).length ≤ haystack.length) :
    ∃ found, (List.range (start + 1)).reverse.findM? (occursBackwards agree haystack rest last)
        = .ok found
      ∧ LastIn {i | i ≤ start ∧ OccursAt agree haystack (rest ++ [last]) i} found := by
  have htry : ∀ i ∈ (List.range (start + 1)).reverse, occursBackwards agree haystack rest last i
      = .ok (startsWith agree (haystack.drop i) (rest ++ [last])) := by
    intro i hi
    rw [List.mem_reverse, List.mem_range] at hi
    exact occursBackwards_eq agree (by omega)
  refine ⟨_, findM?_eq_ok htry, ?_⟩
  -- here all starts that count are tried
  have hstarts : {i | i ≤ start ∧ OccursAt agree haystack (rest ++ [last]) i}
      = {i | i ∈ (List.range (start + 1)).reverse
        ∧ startsWith agree (haystack.drop i) (rest ++ [last]) = true} := by
    ext i
    simp only [Set.mem_ofPred_eq, List.mem_reverse, List.mem_range, Nat.lt_succ_iff]
    exact and_congr_right fun hi => (startsWith_drop_iff (by omega)).symm
  rw [hstarts]
  exact lastIn_find? (List.pairwise_reverse.2 List.pairwise_lt_range)

/-! ### The scans -/

/-- **The forward scan by position** reads in range and answers as the forward scan of a list. -/
theorem forward_eq (haystack : List α) (pattern : List β) (start : Int) :
    forward agree haystack pattern start = .ok (Scan.forward agree haystack pattern start) := by
  have hscan := Scan.firstIn_forward agree haystack pattern start
  unfold forward
  split
  · next hpast =>
    -- only the end is left, and only the empty pattern occurs there
    rw [Nat.min_eq_right hpast] at hscan
    cases pattern with
    | nil =>
      rw [hscan.eq_some ⟨⟨le_rfl, occursAt_nil_iff.2 le_rfl⟩, fun i hi => hi.1⟩]
      rfl
    | cons first rest =>
      rw [hscan.eq_none]
      · rfl
      · rintro i ⟨hi, hfits, -⟩
        rw [List.length_cons] at hfits
        omega
  · next hbefore =>
    rw [Nat.not_le] at hbefore
    rw [Nat.min_eq_left hbefore.le] at hscan
    cases pattern with
    | nil => rw [hscan.eq_some ⟨⟨le_rfl, occursAt_nil_iff.2 hbefore.le⟩, fun i hi => hi.1⟩]
    | cons first rest =>
      simp only
      split
      · next hlong =>
        -- the pattern fits nowhere
        rw [hscan.eq_none]
        rintro i ⟨-, hfits, -⟩
        omega
      · next hfit =>
        split
        · next hlast =>
          -- the pattern fits only before the bound
          rw [hscan.eq_none]
          rintro i ⟨hi, hfits, -⟩
          omega
        · obtain ⟨found, hloop, hfirst⟩ :=
            firstIn_forwardLoop agree start.toNat (Nat.not_lt.1 hfit)
          rw [hloop, hfirst.unique hscan]

/-- **The backward scan by position** reads in range and answers as the backward scan of a list. -/
theorem backward_eq (haystack : List α) (pattern : List β) (limit : Int) :
    backward agree haystack pattern limit = .ok (Scan.backward agree haystack pattern limit) := by
  have hscan := Scan.lastIn_backward agree haystack pattern limit
  unfold backward
  split
  · next hneg =>
    -- below zero there is no start
    rw [hscan.eq_none]
    rintro i ⟨hi, -⟩
    omega
  · next hneg =>
    split
    · next hlong =>
      -- the pattern fits nowhere
      rw [hscan.eq_none]
      rintro i ⟨-, hfits, -⟩
      omega
    · next hfit =>
      -- a limit beyond the last start at which the pattern fits allows no more than that start does
      have hstarts : {i : Nat | (i : Int) ≤ limit ∧ OccursAt agree haystack pattern i}
          = {i | i ≤ min limit.toNat (haystack.length - pattern.length)
            ∧ OccursAt agree haystack pattern i} := by
        ext i
        refine and_congr_left fun hoccurs => ?_
        have hfits := hoccurs.1
        omega
      rw [hstarts] at hscan
      have hstart : min limit.toNat (haystack.length - pattern.length) + pattern.length
          ≤ haystack.length := by omega
      generalize min limit.toNat (haystack.length - pattern.length) = start at hscan hstart
      cases hpattern : pattern.getLast? with
      | none =>
        -- the empty pattern occurs at the limit itself
        obtain rfl := List.getLast?_eq_none_iff.1 hpattern
        rw [hscan.eq_some ⟨⟨le_rfl, occursAt_nil_iff.2 hstart⟩, fun i hi => hi.1⟩]
      | some last =>
        obtain ⟨rest, rfl⟩ := List.getLast?_eq_some_iff.1 hpattern
        obtain ⟨found, hloop, hlast⟩ := lastIn_backwardLoop agree hstart
        rw [List.dropLast_concat]
        simp only
        rw [hloop, hlast.unique hscan]

/-- **The bounded scan by position** reads in range and answers as the bounded scan of a list. -/
theorem forwardWithin_eq (haystack : List α) (pattern : List β) (start stop : Int) :
    forwardWithin agree haystack pattern start stop
      = .ok (Scan.forwardWithin agree haystack pattern start stop) := by
  rw [forwardWithin, Scan.forwardWithin]
  split
  · rfl
  · -- the part before the end bound is read, and the forward scan does the rest
    rw [part_eq_ok (Nat.zero_le _) (Nat.min_le_right _ _), List.drop_zero]
    exact forward_eq agree _ pattern start

end IndexedScan

end Haystack
