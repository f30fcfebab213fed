import Haystack.Proofs.Search.Mirror
import Haystack.Proofs.Search.Starts

/-!
# Searching for an item is searching for the pattern of that item

The scans for a single item are loops of their own, which look at each item once and compare nothing
after it. This file shows that they answer what the scans for a pattern answer to the pattern of that one
item, in both directions and from every bound; and so do all searches that are made of them.

Both sides answer with the first or the last of a set of places. A pattern of one item occurs exactly at
the places of the item (`mem_places_iff`), so what is left to compare is how each side brings the bound
into the haystack. Backwards, the scan for an item goes through the reversed haystack, and its answer is
the mirror of a first place (`lastIn_reverse_findIdx?`).

The scans by position number the items first and go through the numbered items. Numbering can be put off:
dropping and reversing numbered items only changes how the numbers are counted.
-/

namespace Haystack

namespace Search

variable {α β : Type} {agree : α → β → Bool} {xs : List α} {y : β} {i n : Nat} {p : α → Bool}

/-- Places that are counted from `n` on are shifted by it. -/
theorem FirstIn.shifted {starts : Set Nat} {found : Option Nat} (h : FirstIn starts found) (n : Nat) :
    FirstIn {i | n ≤ i ∧ i - n ∈ starts} (found.map (· + n)) := by
  cases found with
  | none => exact firstIn_none_iff.2 fun i hi => firstIn_none_iff.1 h (i - n) hi.2
  | some j =>
    -- shifting keeps the order of the places
    refine ⟨⟨Nat.le_add_left _ _, ?_⟩, ?_⟩
    · rw [Nat.add_sub_cancel]
      exact h.1
    · rintro i ⟨hi, hmem⟩
      exact (Nat.le_sub_iff_add_le hi).1 (h.2 hmem)

/-! ### First and last places -/

/-- The places of the items that pass a test. -/
def places (p : α → Bool) (xs : List α) : Set Nat :=
  {i | ∃ x, xs[i]? = some x ∧ p x = true}

/-- A place is in the list. -/
theorem lt_length_of_mem_places (h : i ∈ places p xs) : i < xs.length := by
  obtain ⟨x, hx, -⟩ := h
  exact (List.getElem?_eq_some_iff.1 hx).1

/-- A pattern of one item occurs at the places of the item. -/
theorem mem_places_iff : i ∈ places (agree · y) xs ↔ OccursAt agree xs [y] i := by
  constructor
  · rintro ⟨x, hx, hxy⟩
    refine ⟨(List.getElem?_eq_some_iff.1 hx).1, fun j x' y' hx' hy' => ?_⟩
    -- the pattern has no second item
    cases j with
    | zero =>
      obtain rfl := Option.some.inj (hx.symm.trans hx')
      obtain rfl := Option.some.inj hy'
      exact hxy
    | succ j => cases hy'
  · rintro ⟨hfits, hagree⟩
    have hi : i < xs.length := hfits
    exact ⟨xs[i], List.getElem?_eq_getElem hi, hagree 0 _ y (List.getElem?_eq_getElem hi) rfl⟩

/-- Places behind the first `n` items are counted from there. -/
theorem mem_places_drop_iff : i ∈ places p (xs.drop n) ↔ i + n ∈ places p xs := by
  unfold places
  simp only [Set.mem_ofPred_eq, List.getElem?_drop, Nat.add_comm n]

/-- Places among the first `n` items are those below `n`. -/
theorem mem_places_take_iff : i ∈ places p (xs.take n) ↔ i < n ∧ i ∈ places p xs := by
  unfold places
  simp only [Set.mem_ofPred_eq, List.getElem?_take]
  split
  · next hi => exact (and_iff_right hi).symm
  · next hi => simp [hi]

/-- Places in the reversed list are counted from the other end. -/
theorem mem_places_reverse_iff (h : i < xs.length) :
    i ∈ places p xs.reverse ↔ xs.length - 1 - i ∈ places p xs := by
  unfold places
  simp only [Set.mem_ofPred_eq, List.getElem?_reverse h]

/-- **Going through the items finds the first place.** -/
theorem firstIn_findIdx? (p : α → Bool) (xs : List α) : FirstIn (places p xs) (xs.findIdx? p) := by
  cases hfind : xs.findIdx? p with
  | none =>
    rw [List.findIdx?_eq_none_iff] at hfind
    refine firstIn_none_iff.2 ?_
    rintro i ⟨x, hx, hp⟩
    rw [hfind x (List.mem_of_getElem? hx)] at hp
    exact Bool.false_ne_true hp
  | some i =>
    obtain ⟨hi, hp, hbefore⟩ := List.findIdx?_eq_some_iff_getElem.1 hfind
    refine ⟨⟨xs[i], List.getElem?_eq_getElem hi, hp⟩, ?_⟩
    rintro j ⟨x, hx, hpx⟩
    obtain ⟨hj, rfl⟩ := List.getElem?_eq_some_iff.1 hx
    exact Nat.not_lt.1 fun hlt => hbefore j hlt hpx

/-- **The last place is the mirror of the first one** in the reversed list. -/
theorem lastIn_reverse_findIdx? (p : α → Bool) (xs : List α) :
    LastIn (places p xs) ((xs.reverse.findIdx? p).map (xs.length - 1 - ·)) := by
  have hlength : ∀ i ∈ places p xs.reverse, i < xs.length := fun i hi =>
    xs.length_reverse ▸ lt_length_of_mem_places hi
  -- the mirror stands at the last item
  have hlast := (firstIn_findIdx? p xs.reverse).mirrored fun i hi => Nat.le_sub_one_of_lt (hlength i hi)
  convert hlast using 1
  ext i
  show _ ↔ _ ∧ _
  constructor
  · intro hi
    have hlt := lt_length_of_mem_places hi
    refine ⟨Nat.le_sub_one_of_lt hlt, (mem_places_reverse_iff (by omega)).2 ?_⟩
    rw [Nat.sub_sub_self (Nat.le_sub_one_of_lt hlt)]
    exact hi
  · rintro ⟨hi, hmem⟩
    have hplace := (mem_places_reverse_iff (hlength _ hmem)).1 hmem
    rw [Nat.sub_sub_self hi] at hplace
    exact hplace

end Search

namespace Scan

open Search

variable {α β : Type} (agree : α → β → Bool) (haystack : List α) (y : β)

/-! ### The scans for an item -/

/-- **The forward scan for an item** is the forward scan for the pattern of the item. -/
theorem forwardItem_eq (start : Int) :
    forwardItem agree haystack y start = forward agree haystack [y] start := by
  refine FirstIn.unique ?_ (firstIn_forward agree haystack [y] start)
  rw [forwardItem]
  convert (firstIn_findIdx? (agree · y) (haystack.drop start.toNat)).shifted start.toNat using 1
  ext i
  show _ ∧ _ ↔ _ ∧ _
  rw [mem_places_drop_iff, ← mem_places_iff]
  constructor
  · -- a bound past the end counts as the end, and there is no item there
    rintro ⟨hi, hmem⟩
    have hlt := lt_length_of_mem_places hmem
    rw [Nat.sub_add_cancel (by omega)]
    exact ⟨by omega, hmem⟩
  · rintro ⟨hi, hmem⟩
    rw [Nat.sub_add_cancel hi] at hmem
    exact ⟨(Nat.min_le_left _ _).trans hi, hmem⟩

/-- **The backward scan for an item** is the backward scan for the pattern of the item. -/
theorem backwardItem_eq (limit : Int) :
    backwardItem agree haystack y limit = backward agree haystack [y] limit := by
  refine LastIn.unique ?_ (lastIn_backward agree haystack [y] limit)
  rw [backwardItem]
  split
  · next hneg =>
    -- below zero there is no start
    refine lastIn_none_iff.2 fun i hi => ?_
    have hlimit : (i : Int) ≤ limit := hi.1
    omega
  · next hneg =>
    convert lastIn_reverse_findIdx? (agree · y) (haystack.take (limit.toNat + 1)) using 1
    ext i
    rw [mem_places_take_iff, mem_places_iff]
    refine and_congr_left fun _ => ?_
    omega

end Scan

namespace IndexedScan

variable {α β : Type} (agree : α → β → Bool) (haystack : List α) (y : β)

/-! ### Numbered items -/

/-- Counting in another way changes the number that is found, and not which one. -/
theorem findSome?_numberIf_map (g : Nat → Nat) (l : List (α × Nat)) :
    (l.map (Prod.map id g)).findSome? (numberIf agree y) = (l.findSome? (numberIf agree y)).map g := by
  -- the test looks at the item only, and the number is handed on
  have hnumber : numberIf agree y ∘ Prod.map id g = Option.map g ∘ numberIf agree y := by
    funext ⟨x, i⟩
    show (if agree x y then some (g i) else none) = (if agree x y then some i else none).map g
    split <;> rfl
  rw [List.findSome?_map, hnumber, List.map_findSome?]

/-- Going through the numbered items finds the first place. -/
theorem findSome?_zipIdx_eq : haystack.zipIdx.findSome? (numberIf agree y)
    = haystack.findIdx? (agree · y) := by
  rw [List.findIdx?_eq_findSome?_zipIdx]
  rfl

/-- Dropping numbered items is numbering what is left from `n` on. -/
theorem drop_zipIdx (n : Nat) :
    haystack.zipIdx.drop n = (haystack.drop n).zipIdx.map (Prod.map id (· + n)) := by
  ext1 i
  simp [Nat.add_comm n, Function.comp_def]

/-- Reversing numbered items is numbering the reversed list from its end. -/
theorem reverse_zipIdx : haystack.zipIdx.reverse
    = haystack.reverse.zipIdx.map (Prod.map id (haystack.length - 1 - ·)) := by
  ext1 i
  by_cases hi : i < haystack.length
  · rw [List.getElem?_reverse (by simpa using hi)]
    simp [List.getElem?_reverse hi, Function.comp_def]
  · simp [hi]

/-! ### The scans for an item -/

/-- **The forward scan by position** for an item answers as the one of a list. -/
theorem forwardItem_eq (start : Int) :
    forwardItem agree haystack y start = Scan.forwardItem agree haystack y start := by
  rw [forwardItem, drop_zipIdx, findSome?_numberIf_map, findSome?_zipIdx_eq]
  rfl

/-- **The backward scan by position** for an item reads in range and answers as the one of a list. -/
theorem backwardItem_eq (limit : Int) :
    backwardItem agree haystack y limit = .ok (Scan.backwardItem agree haystack y limit) := by
  rw [backwardItem, Scan.backwardItem]
  split
  · rfl
  · split
    · next hzero =>
      obtain rfl := List.length_eq_zero_iff.1 hzero
      rfl
    · next last hlast =>
      -- a limit past the end takes all items, as does the limit that is brought in
      have htake : haystack.take (min limit.toNat last + 1) = haystack.take (limit.toNat + 1) := by
        rw [List.take_eq_take_iff]
        omega
      rw [part_eq_ok (Nat.zero_le _) (by omega), List.drop_zero, htake]
      show Except.ok _ = _
      rw [reverse_zipIdx, findSome?_numberIf_map, findSome?_zipIdx_eq]

end IndexedScan

namespace SearchRule

variable {α : Type} (r : SearchRule α) (haystack? : Option (List α)) (x : α) (w : r.Window)

/-! ### Slices that may be absent -/

/-- The forward search of a slice for one item, absent slices included. -/
theorem firstIndexOf_singleton (start : Int) :
    r.firstIndexOf haystack? (some [x]) start w = .ok (r.firstIndexOfItem haystack? x start w) := by
  cases haystack? with
  | none => rfl
  | some haystack =>
    rw [firstIndexOf_some, ← Scan.forwardItem_eq]
    rfl

/-- The backward search of a slice for one item. -/
theorem lastIndexOf_singleton (limit : Int) :
    r.lastIndexOf haystack? (some [x]) limit w = .ok (r.lastIndexOfItem haystack? x limit w) := by
  cases haystack? with
  | none => rfl
  | some haystack =>
    rw [lastIndexOf_some, ← Scan.backwardItem_eq]
    rfl

/-- The search for the presence of one item. -/
theorem contains_singleton :
    r.contains haystack? (some [x]) w = .ok (r.containsItem haystack? x w) := by
  rw [contains, firstIndexOf_singleton]
  rfl

end SearchRule

/-! ### Every search for an item -/

/-- **Every search for an item is the search for the pattern of that item.** -/
theorem item_search_is_pattern_search {α β : Type} (agree : α → β → Bool) (haystack : List α) (y : β)
    (bound : Int) :
    (Scan.forwardItem agree haystack y bound = Scan.forward agree haystack [y] bound
        ∧ Scan.backwardItem agree haystack y bound = Scan.backward agree haystack [y] bound)
      ∧ (.ok (IndexedScan.forwardItem agree haystack y bound)
          = IndexedScan.forward agree haystack [y] bound
        ∧ IndexedScan.backwardItem agree haystack y bound
          = IndexedScan.backward agree haystack [y] bound)
      ∧ ∀ {γ : Type} (r : SearchRule γ) (w : r.Window) (x : γ),
        (∀ xs? : Option (List γ),
          r.firstIndexOf xs? (some [x]) bound w = .ok (r.firstIndexOfItem xs? x bound w)
            ∧ r.lastIndexOf xs? (some [x]) bound w = .ok (r.lastIndexOfItem xs? x bound w)
            ∧ r.contains xs? (some [x]) w = .ok (r.containsItem xs? x w))
          ∧ ∀ xs : List γ,
            Slice.indexOfWithin r xs x bound w = Slice.indexOfSeqWithin r xs [x] bound w
              ∧ Slice.lastIndexOfWithin r xs x bound w = Slice.lastIndexOfSeqWithin r xs [x] bound w
              ∧ Slice.indexOfFrom r xs x bound = Slice.indexOfSeqFrom r xs [x] bound
              ∧ Slice.lastIndexOfFrom r xs x bound = Slice.lastIndexOfSeqFrom r xs [x] bound
              ∧ Slice.indexOf r xs x = Slice.indexOfSeq r xs [x]
              ∧ Slice.lastIndexOf r xs x = Slice.lastIndexOfSeq r xs [x]
              ∧ Slice.containsItem r xs x = Slice.containsSeq r xs [x] := by
  refine ⟨⟨Scan.forwardItem_eq agree haystack y bound, Scan.backwardItem_eq agree haystack y bound⟩,
    ⟨?_, ?_⟩, fun r w x => ⟨fun xs? => ?_, fun xs => ?_⟩⟩
  · rw [IndexedScan.forwardItem_eq, IndexedScan.forward_eq, Scan.forwardItem_eq]
  · rw [IndexedScan.backwardItem_eq, IndexedScan.backward_eq, Scan.backwardItem_eq]
  · exact ⟨r.firstIndexOf_singleton xs? x w bound, r.lastIndexOf_singleton xs? x w bound,
      r.contains_singleton xs? x w⟩
  · -- the searches of slices are the scans under a rule, from the bounds that each of them has
    have hforward := fun (v : r.Window) => Scan.forwardItem_eq (r.agree v) xs x
    have hbackward := fun (v : r.Window) => Scan.backwardItem_eq (r.agree v) xs x
    exact ⟨hforward w bound, hbackward w bound, hforward r.default bound, hbackward r.default bound,
      hforward r.default 0, hbackward r.default fromEnd.toInt,
      congrArg Option.isSome (hforward r.default 0)⟩

end Haystack
