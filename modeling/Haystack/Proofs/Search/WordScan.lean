import Haystack.Proofs.Search.Item
import Haystack.Search.WordScan

/-!
# No scan faults

In machine words a scan could read out of range, add up positions to something that is no word, or compare
less of the pattern than there is. This file shows that it does none of it: **every scan in words ends
without a fault**, with the answer of the scan of lists, whatever the haystack, the pattern, the bounds
and the agreement of items are (`no_scan_faults`).

The reason is the same for all faults. A block has fewer items than there are words, so a position in it,
and the one behind its last item, are words. A start is tried only if the pattern fits there. Then the
items that the pattern lies on are in the block, the positions of their ends are words
(`sum_eq_ok`), and the part that is cut out of the block is as long as what it is compared with
(`occursForwards_eq`, `occursBackwards_eq`). The exits are those of the scans by position.
-/

namespace Haystack.WordScan

open Search

variable {α β : Type} (agree : α → β → Bool)

/-- What goes on from a result goes on with its value. -/
theorem ok_bind {ε γ δ : Type} (x : γ) (f : γ → Except ε δ) : (Except.ok x >>= f) = f x := rfl

/-! ### Words -/

/-- The length of a block is a word. -/
theorem toNat_length (xs : Block α) : (length xs).toNat = xs.items.length :=
  UInt64.toNat_ofNat_of_lt' xs.length_lt

/-- A negative bound is no position. -/
theorem position?_of_neg {bound : Int64} (h : bound.toInt < 0) : position? bound = none :=
  if_pos (Int64.lt_iff_toInt_lt.2 h)

/-- A bound that is not negative is a position. -/
theorem exists_position? {bound : Int64} (h : ¬bound.toInt < 0) :
    ∃ i, position? bound = some i ∧ i.toNat = bound.toInt.toNat := by
  have hnot : ¬bound < 0 := mt Int64.lt_iff_toInt_lt.1 h
  refine ⟨_, if_neg hnot, ?_⟩
  rw [Int64.toNat_toUInt64_of_le (Int64.not_lt.1 hnot), Int64.toNat_toInt]

/-- A negative start bound counts as the front. -/
theorem toNat_getD_position? (bound : Int64) :
    ((position? bound).getD 0).toNat = bound.toInt.toNat := by
  by_cases h : bound.toInt < 0
  · rw [position?_of_neg h, Int.toNat_of_nonpos h.le]
    rfl
  · obtain ⟨i, hi, htoNat⟩ := exists_position? h
    rw [hi]
    exact htoNat

/-- **A sum that is a word is not cut off.** -/
theorem sum_eq_ok {x y : UInt64} (h : x.toNat + y.toNat < UInt64.size) :
    ∃ z, sum x y = .ok z ∧ z.toNat = x.toNat + y.toNat :=
  ⟨x + y, if_pos h, by rw [UInt64.toNat_add]; exact Nat.mod_eq_of_lt h⟩

/-- A smaller word leaves no difference. -/
theorem difference?_of_lt {x y : UInt64} (h : x.toNat < y.toNat) : difference? x y = none :=
  if_pos (UInt64.lt_iff_toNat_lt.2 h)

/-- A word that is not smaller leaves the difference of the numbers. -/
theorem exists_difference? {x y : UInt64} (h : y.toNat ≤ x.toNat) :
    ∃ z, difference? x y = some z ∧ z.toNat = x.toNat - y.toNat :=
  ⟨x - y, if_neg (mt UInt64.lt_iff_toNat_lt.1 (Nat.not_lt.2 h)),
    UInt64.toNat_sub_of_le x y (UInt64.le_iff_toNat_le.2 h)⟩

/-- **A difference that is not below zero does not fault.** -/
theorem difference_eq_ok {x y : UInt64} (h : y.toNat ≤ x.toNat) :
    ∃ z, difference x y = .ok z ∧ z.toNat = x.toNat - y.toNat := by
  obtain ⟨z, hz, htoNat⟩ := exists_difference? h
  exact ⟨z, by rw [difference, hz], htoNat⟩

/-! ### Blocks -/

section Blocks

variable {xs : Block α} {ys : List β} {i j : UInt64}

/-- An item is read at a position in the block. -/
theorem item_eq_ok (h : i.toNat < xs.items.length) : item xs i = .ok xs.items[i.toNat] := by
  rw [item, IndexedScan.item_eq_ok h]
  rfl

/-- A part is cut out between positions that are in order and in the block. -/
theorem part_eq_ok (xs : Block α) {i j : UInt64} (hij : i.toNat ≤ j.toNat)
    (hj : j.toNat ≤ xs.items.length) :
    ∃ zs, part xs i j = .ok zs ∧ zs.items = (xs.items.take j.toNat).drop i.toNat :=
  ⟨_, if_pos ⟨hij, hj⟩, rfl⟩

/-- Items are paired with a block that is long enough for all of them. -/
theorem pairs_eq_ok (h : ys.length ≤ xs.items.length) : pairs ys xs = .ok (ys.zip xs.items) :=
  if_pos h

end Blocks

/-! ### Trying one start -/

section Start

variable {haystack : Block α} {first last : β} {rest : List β} {i : UInt64}

/-- Forwards, nothing goes wrong at a start at which the pattern fits. -/
theorem occursForwards_eq (h : i.toNat + (first :: rest).length ≤ haystack.items.length) :
    occursForwards agree haystack first rest i
      = .ok (startsWith agree (haystack.items.drop i.toNat) (first :: rest)) := by
  have hindexed := IndexedScan.occursForwards_eq agree h
  rw [List.length_cons] at h
  have hbound := haystack.length_lt
  have hlength := toNat_length haystack
  have hone : (1 : UInt64).toNat = 1 := rfl
  have hi : i.toNat < haystack.items.length := by omega
  -- the position behind the first item is a word, and the others fit into what follows it
  obtain ⟨next, hnext, htoNat⟩ := sum_eq_ok (x := i) (y := 1) (by omega)
  obtain ⟨behind, hpart, hitems⟩ := part_eq_ok haystack (i := next) (j := length haystack)
    (by omega) hlength.le
  rw [htoNat, hone, hlength, List.take_length] at hitems
  have hcover : rest.length ≤ behind.items.length := by
    rw [hitems, List.length_drop]
    omega
  -- both tries read the same item and compare along the same part
  rw [IndexedScan.occursForwards, IndexedScan.item_eq_ok hi, ok_bind,
    IndexedScan.part_eq_ok hi le_rfl, ok_bind, List.take_length, ← hitems] at hindexed
  rw [occursForwards, item_eq_ok hi, ok_bind, hnext, ok_bind, hpart, ok_bind, pairs_eq_ok hcover,
    ok_bind]
  split at hindexed
  · next hagree => rw [if_pos hagree, ← Except.ok.inj hindexed]; rfl
  · next hagree => rw [if_neg hagree, ← Except.ok.inj hindexed]; rfl

/-- Backwards, nothing goes wrong there either. -/
theorem occursBackwards_eq (h : i.toNat + (rest ++ [last]).length ≤ haystack.items.length) :
    occursBackwards agree haystack rest last i
      = .ok (startsWith agree (haystack.items.drop i.toNat) (rest ++ [last])) := by
  have hindexed := IndexedScan.occursBackwards_eq agree h
  rw [List.length_append, List.length_singleton] at h
  have hbound := haystack.length_lt
  have htail : (UInt64.ofNat rest.length).toNat = rest.length :=
    UInt64.toNat_ofNat_of_lt' (by omega)
  have hi : i.toNat + rest.length < haystack.items.length := by omega
  -- the position of the last item is a word, and the others fill what is before it
  obtain ⟨stop, hstop, htoNat⟩ := sum_eq_ok (x := i) (y := .ofNat rest.length) (by omega)
  rw [htail] at htoNat
  obtain ⟨before, hpart, hitems⟩ := part_eq_ok haystack (i := i) (j := stop)
    (by omega) (by omega)
  rw [htoNat] at hitems
  have hcover : rest.length ≤ before.items.length := by
    rw [hitems, List.length_drop, List.length_take]
    omega
  -- as before, both tries come to the same reads and the same comparison
  rw [IndexedScan.occursBackwards, IndexedScan.item_eq_ok hi, ok_bind,
    IndexedScan.part_eq_ok (Nat.le_add_right _ _) hi.le, ok_bind, ← hitems] at hindexed
  have hread : item haystack stop = .ok haystack.items[i.toNat + rest.length] := by
    simp only [item_eq_ok (htoNat ▸ hi : stop.toNat < haystack.items.length), htoNat]
  rw [occursBackwards, hstop, ok_bind, hread, ok_bind, ok_bind, hpart, ok_bind, pairs_eq_ok hcover,
    ok_bind]
  split at hindexed
  · next hagree => rw [if_pos hagree, ← Except.ok.inj hindexed]; rfl
  · next hagree => rw [if_neg hagree, ← Except.ok.inj hindexed]; rfl

end Start

/-! ### The loops -/

/-- Words below the number of words are what they count. -/
theorem map_toNat_find? (p : Nat → Bool) {l : List Nat} (hl : ∀ i ∈ l, i < UInt64.size) :
    ((l.map UInt64.ofNat).find? fun i => p i.toNat).map UInt64.toNat = l.find? p := by
  induction l with
  | nil => rfl
  | cons i l ih =>
    -- a number below the number of words is what its word counts
    have hi : (UInt64.ofNat i).toNat = i := UInt64.toNat_ofNat_of_lt' (hl i List.mem_cons_self)
    rw [List.map_cons, List.find?_cons, List.find?_cons, hi]
    cases p i with
    | true => exact congrArg some hi
    | false => exact ih fun j hj => hl j (List.mem_cons_of_mem i hj)

/-- **A loop over words whose tries do not fault** answers as the loop over what they count. -/
theorem map_findM?_eq_ok {test : UInt64 → Except Fault Bool} {p : Nat → Bool} {l : List Nat}
    (hl : ∀ i ∈ l, i < UInt64.size)
    (htest : ∀ i : UInt64, i.toNat ∈ l → test i = .ok (p i.toNat)) :
    ((l.map UInt64.ofNat).findM? test).map (Option.map UInt64.toNat) = .ok (l.find? p) := by
  -- every word that is tried counts a number of the list, whose try does not fault
  have hwords : ∀ w ∈ l.map UInt64.ofNat, test w = .ok (p w.toNat) := by
    intro w hw
    obtain ⟨i, hi, rfl⟩ := List.mem_map.1 hw
    apply htest
    rwa [UInt64.toNat_ofNat_of_lt' (hl i hi)]
  rw [IndexedScan.findM?_eq_ok hwords, ← map_toNat_find? p hl]
  rfl

section Loops

variable {haystack : Block α} {first last : β} {rest : List β} {i j : UInt64} {found : Option Nat}

/-- The forward loop in words does what the loop over positions does, up to the last start at which the
pattern fits. -/
theorem forwardLoop_eq (hfit : j.toNat + (first :: rest).length ≤ haystack.items.length)
    (hindexed : (List.range' i.toNat (j.toNat + 1 - i.toNat)).findM?
      (IndexedScan.occursForwards agree haystack.items first rest) = .ok found) :
    ((upTo i j).findM? (occursForwards agree haystack first rest)).map (Option.map UInt64.toNat)
      = .ok found := by
  have hbound := haystack.length_lt
  -- the pattern fits at every start that is tried
  have htries : ∀ k ∈ List.range' i.toNat (j.toNat + 1 - i.toNat),
      k + (first :: rest).length ≤ haystack.items.length := by
    intro k hk
    rw [List.mem_range'_1] at hk
    omega
  rw [IndexedScan.findM?_eq_ok fun k hk => IndexedScan.occursForwards_eq agree (htries k hk)] at hindexed
  rw [upTo, ← Except.ok.inj hindexed]
  refine map_findM?_eq_ok (fun k hk => ?_) fun k hk => occursForwards_eq agree (htries _ hk)
  have hk' := htries k hk
  omega

/-- So does the backward loop. -/
theorem backwardLoop_eq (hfit : j.toNat + (rest ++ [last]).length ≤ haystack.items.length)
    (hindexed : (List.range (j.toNat + 1)).reverse.findM?
      (IndexedScan.occursBackwards agree haystack.items rest last) = .ok found) :
    ((upTo 0 j).reverse.findM? (occursBackwards agree haystack rest last)).map
        (Option.map UInt64.toNat) = .ok found := by
  have hbound := haystack.length_lt
  -- going back, the pattern fits at all starts once it fits at the last one
  have htries : ∀ k ∈ (List.range (j.toNat + 1)).reverse,
      k + (rest ++ [last]).length ≤ haystack.items.length := by
    intro k hk
    rw [List.mem_reverse, List.mem_range] at hk
    omega
  have hstarts : (upTo 0 j).reverse = (List.range (j.toNat + 1)).reverse.map UInt64.ofNat := by
    rw [upTo, List.map_reverse, List.range_eq_range']
    rfl
  rw [IndexedScan.findM?_eq_ok fun k hk => IndexedScan.occursBackwards_eq agree (htries k hk)] at hindexed
  rw [hstarts, ← Except.ok.inj hindexed]
  refine map_findM?_eq_ok (fun k hk => ?_) fun k hk => occursBackwards_eq agree (htries _ hk)
  have hk' := htries k hk
  omega

end Loops

/-! ### The scans -/

/-- **The forward scan in words** does not fault and answers as the forward scan of a list. -/
theorem forward_eq (haystack : Block α) (pattern : Block β) (start : Int64) :
    (forward agree haystack pattern start).map (Option.map UInt64.toNat)
      = .ok (Scan.forward agree haystack.items pattern.items start.toInt) := by
  have hindexed := IndexedScan.forward_eq agree haystack.items pattern.items start.toInt
  have hbound := haystack.length_lt
  have hlength := toNat_length haystack
  have hfits := toNat_length pattern
  -- the scan by position makes the same tests, and each of them is decided alike in words
  unfold IndexedScan.forward at hindexed
  unfold forward
  rw [← toNat_getD_position? start] at hindexed
  generalize (position? start).getD 0 = s at hindexed ⊢
  dsimp only
  by_cases hpast : haystack.items.length ≤ s.toNat
  · rw [if_pos hpast] at hindexed
    rw [if_pos (UInt64.le_iff_toNat_le.2 (hlength.trans_le hpast)), ← Except.ok.inj hindexed]
    -- at the end or past it only the empty pattern is found
    cases pattern.items.isEmpty with
    | true => exact congrArg (fun n => Except.ok (some n)) hlength
    | false => rfl
  · rw [if_neg hpast] at hindexed
    rw [if_neg (mt UInt64.le_iff_toNat_le.1 (hlength ▸ hpast))]
    cases hpattern : pattern.items with
    | nil =>
      -- the empty pattern is found where the search begins
      rw [hpattern] at hindexed
      rw [← Except.ok.inj hindexed]
      rfl
    | cons first rest =>
      rw [hpattern] at hindexed hfits
      dsimp only at hindexed ⊢
      by_cases hlong : haystack.items.length < (first :: rest).length
      · -- the pattern is longer than the haystack
        rw [if_pos hlong] at hindexed
        rw [difference?_of_lt (by omega), ← Except.ok.inj hindexed]
        rfl
      · rw [if_neg hlong] at hindexed
        obtain ⟨last, hlast, htoNat⟩ := exists_difference? (x := length haystack)
          (y := length pattern) (by omega)
        rw [hlength, hfits] at htoNat
        rw [hlast]
        dsimp only
        rw [← htoNat] at hindexed
        by_cases hcross : last.toNat < s.toNat
        · -- the search begins behind the last start at which the pattern fits
          rw [if_pos hcross] at hindexed
          rw [if_pos (UInt64.lt_iff_toNat_lt.2 hcross), ← Except.ok.inj hindexed]
          rfl
        · rw [if_neg hcross] at hindexed
          rw [if_neg (mt UInt64.lt_iff_toNat_lt.1 hcross)]
          exact forwardLoop_eq agree (by omega) hindexed

/-- **The backward scan in words** does not fault and answers as the backward scan of a list. -/
theorem backward_eq (haystack : Block α) (pattern : Block β) (limit : Int64) :
    (backward agree haystack pattern limit).map (Option.map UInt64.toNat)
      = .ok (Scan.backward agree haystack.items pattern.items limit.toInt) := by
  have hindexed := IndexedScan.backward_eq agree haystack.items pattern.items limit.toInt
  have hbound := haystack.length_lt
  have hlength := toNat_length haystack
  have hfits := toNat_length pattern
  unfold IndexedScan.backward at hindexed
  unfold backward
  by_cases hneg : limit.toInt < 0
  · -- a negative limit leaves no start
    rw [if_pos hneg] at hindexed
    rw [position?_of_neg hneg, ← Except.ok.inj hindexed]
    rfl
  · rw [if_neg hneg] at hindexed
    obtain ⟨i, hi, htoNat⟩ := exists_position? hneg
    rw [hi]
    dsimp only
    by_cases hlong : haystack.items.length < pattern.items.length
    · -- the pattern is longer than the haystack
      rw [if_pos hlong] at hindexed
      rw [difference?_of_lt (by omega), ← Except.ok.inj hindexed]
      rfl
    · rw [if_neg hlong] at hindexed
      obtain ⟨last, hlast, hlastNat⟩ := exists_difference? (x := length haystack)
        (y := length pattern) (by omega)
      rw [hlast]
      dsimp only
      -- the start is the same in words
      have hstart : (min i last).toNat
          = min limit.toInt.toNat (haystack.items.length - pattern.items.length) := by
        rw [UInt64.toNat_min, htoNat, hlastNat, hlength, hfits]
      rw [← hstart] at hindexed
      have hfit : (min i last).toNat + pattern.items.length ≤ haystack.items.length := by
        omega
      generalize min i last = start at hindexed hfit ⊢
      cases hpattern : pattern.items.getLast? with
      | none =>
        rw [hpattern] at hindexed
        rw [← Except.ok.inj hindexed]
        rfl
      | some y =>
        obtain ⟨rest, hitems⟩ := List.getLast?_eq_some_iff.1 hpattern
        rw [hpattern, hitems, List.dropLast_concat] at hindexed
        rw [hitems] at hfit ⊢
        rw [List.dropLast_concat]
        dsimp only at hindexed ⊢
        exact backwardLoop_eq agree hfit hindexed

/-- An end bound is brought into the haystack. -/
theorem toNat_clampStop (haystack : Block α) (stop : Int64) :
    (clampStop haystack stop).toNat = min stop.toInt.toNat haystack.items.length := by
  unfold clampStop
  by_cases hneg : stop.toInt < 0
  · rw [position?_of_neg hneg, Int.toNat_of_nonpos hneg.le, Nat.zero_min]
    rfl
  · obtain ⟨i, hi, htoNat⟩ := exists_position? hneg
    rw [hi, ← htoNat, ← toNat_length haystack]
    exact UInt64.toNat_min i (length haystack)

/-- **The bounded scan in words** does not fault and answers as the bounded scan of a list. -/
theorem forwardWithin_eq (haystack : Block α) (pattern : Block β) (start stop : Int64) :
    (forwardWithin agree haystack pattern start stop).map (Option.map UInt64.toNat)
      = .ok (Scan.forwardWithin agree haystack.items pattern.items start.toInt stop.toInt) := by
  have hstop := toNat_clampStop haystack stop
  unfold forwardWithin Scan.forwardWithin
  rw [← hstop, ← toNat_getD_position? start]
  generalize clampStop haystack stop = last at hstop ⊢
  dsimp only
  by_cases hcross : last.toNat < ((position? start).getD 0).toNat
  · rw [if_pos hcross, if_pos (UInt64.lt_iff_toNat_lt.2 hcross)]
    rfl
  · rw [if_neg hcross, if_neg (mt UInt64.lt_iff_toNat_lt.1 hcross)]
    -- the items before the end bound are cut out, and the forward scan goes through them
    obtain ⟨before, hpart, hitems⟩ := part_eq_ok haystack (i := 0) (j := last)
      (Nat.zero_le _) (hstop.trans_le (Nat.min_le_right _ _))
    rw [hpart, ok_bind, forward_eq, hitems]
    rfl

/-! ### Single items -/

/-- Going up from a position, no number of an item is out of the words. -/
theorem ascending_eq (accept : α → Bool) {xs : List α} {i : UInt64}
    (h : i.toNat + xs.length < UInt64.size) :
    (ascending accept i xs).map (Option.map UInt64.toNat)
      = .ok ((xs.findIdx? accept).map (· + i.toNat)) := by
  induction xs generalizing i with
  | nil => rfl
  | cons x xs ih =>
    rw [List.length_cons] at h
    have hone : (1 : UInt64).toNat = 1 := rfl
    -- the number of the next item is a word, as all items are counted by words
    obtain ⟨next, hnext, htoNat⟩ := sum_eq_ok (x := i) (y := 1) (by omega)
    rw [ascending, hnext, ok_bind, List.findIdx?_cons]
    cases accept x with
    | true => simp [Except.map, pure, Except.pure]
    | false =>
      simp only [Bool.false_eq_true, if_false]
      rw [ih (by omega), htoNat, hone, Option.map_map]
      congr 2
      funext n
      simp only [Function.comp_apply]
      omega

/-- Going down from a position that all items are before, none gets below zero. -/
theorem descending_eq (accept : α → Bool) {xs : List α} {i : UInt64} (h : xs.length ≤ i.toNat) :
    (descending accept i xs).map (Option.map UInt64.toNat)
      = .ok ((xs.findIdx? accept).map (i.toNat - 1 - ·)) := by
  induction xs generalizing i with
  | nil => rfl
  | cons x xs ih =>
    rw [List.length_cons] at h
    have hone : (1 : UInt64).toNat = 1 := rfl
    -- an item is left, so the number is not zero yet
    obtain ⟨prev, hprev, htoNat⟩ := difference_eq_ok (x := i) (y := 1) (by omega)
    rw [hone] at htoNat
    rw [descending, hprev, ok_bind, List.findIdx?_cons]
    cases accept x with
    | true => simp [Except.map, pure, Except.pure, htoNat]
    | false =>
      simp only [Bool.false_eq_true, if_false]
      rw [ih (by omega), htoNat, Option.map_map]
      congr 2
      funext n
      simp only [Function.comp_apply]
      omega

/-- **The forward scan for an item in words** does not fault and answers as the one of a list. -/
theorem forwardItem_eq (haystack : Block α) (y : β) (start : Int64) :
    (forwardItem agree haystack y start).map (Option.map UInt64.toNat)
      = .ok (Scan.forwardItem agree haystack.items y start.toInt) := by
  have hbound := haystack.length_lt
  unfold forwardItem Scan.forwardItem
  rw [← toNat_getD_position? start]
  generalize (position? start).getD 0 = s
  dsimp only
  by_cases hpast : haystack.items.length ≤ s.toNat
  · -- nothing is left to be numbered
    rw [List.drop_of_length_le hpast]
    rfl
  · refine ascending_eq (fun x => agree x y) ?_
    rw [List.length_drop]
    omega

/-- **The backward scan for an item in words** does not fault and answers as the one of a list. -/
theorem backwardItem_eq (haystack : Block α) (y : β) (limit : Int64) :
    (backwardItem agree haystack y limit).map (Option.map UInt64.toNat)
      = .ok (Scan.backwardItem agree haystack.items y limit.toInt) := by
  have hbound := haystack.length_lt
  have hlength := toNat_length haystack
  have hone : (1 : UInt64).toNat = 1 := rfl
  unfold backwardItem Scan.backwardItem
  by_cases hneg : limit.toInt < 0
  · rw [position?_of_neg hneg, if_pos hneg]
    rfl
  · obtain ⟨i, hi, htoNat⟩ := exists_position? hneg
    rw [hi, if_neg hneg, ← htoNat]
    dsimp only
    by_cases hempty : haystack.items = []
    · rw [difference?_of_lt (by rw [hlength, hempty]; exact Nat.one_pos), hempty]
      rfl
    · have hpos := List.length_pos_iff.2 hempty
      obtain ⟨last, hlast, hlastNat⟩ := exists_difference? (x := length haystack) (y := 1) (by omega)
      -- the position behind the last item that is allowed is a word
      obtain ⟨stop, hstop, hstopNat⟩ := sum_eq_ok (x := min i last) (y := 1) (by
        rw [UInt64.toNat_min]
        omega)
      rw [UInt64.toNat_min, hlastNat, hlength, hone] at hstopNat
      obtain ⟨allowed, hpart, hitems⟩ := part_eq_ok haystack (i := 0) (j := stop)
        (Nat.zero_le _) (by omega)
      -- the limit is brought to the last item, which the items up to the limit are the same for
      have htake : allowed.items = haystack.items.take (i.toNat + 1) := by
        rw [hitems, hstopNat]
        rcases Nat.le_total i.toNat (haystack.items.length - 1) with hle | hle
        · rw [Nat.min_eq_left hle]
          rfl
        · rw [Nat.min_eq_right hle, List.take_of_length_le (by omega),
            List.take_of_length_le (by omega)]
          rfl
      rw [hlast]
      dsimp only
      rw [hstop, ok_bind, hpart, ok_bind, descending_eq _ (by
        rw [List.length_reverse, toNat_length]), toNat_length, htake]

/-- **No scan faults.** In words, the scans for a pattern and for an item, in either direction and from
any bounds, add up positions to words only, read in range only, and compare the whole pattern with items of
the haystack wherever they find it. Each of them answers as the scan of lists does. -/
theorem no_scan_faults (haystack : Block α) (pattern : Block β) (y : β) (start stop : Int64) :
    (forward agree haystack pattern start).map (Option.map UInt64.toNat)
        = .ok (Scan.forward agree haystack.items pattern.items start.toInt)
      ∧ (backward agree haystack pattern start).map (Option.map UInt64.toNat)
        = .ok (Scan.backward agree haystack.items pattern.items start.toInt)
      ∧ (forwardWithin agree haystack pattern start stop).map (Option.map UInt64.toNat)
        = .ok (Scan.forwardWithin agree haystack.items pattern.items start.toInt stop.toInt)
      ∧ (forwardItem agree haystack y start).map (Option.map UInt64.toNat)
        = .ok (Scan.forwardItem agree haystack.items y start.toInt)
      ∧ (backwardItem agree haystack y start).map (Option.map UInt64.toNat)
        = .ok (Scan.backwardItem agree haystack.items y start.toInt) :=
  ⟨forward_eq agree haystack pattern start, backward_eq agree haystack pattern start,
    forwardWithin_eq agree haystack pattern start stop, forwardItem_eq agree haystack y start,
    backwardItem_eq agree haystack y start⟩

end Haystack.WordScan
