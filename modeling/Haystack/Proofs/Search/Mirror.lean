import Haystack.Proofs.Search.IndexedScan
import Haystack.Search.Agreement

/-!
# Searching backwards is searching forwards in the mirror

Reversing the haystack and the pattern takes the start `i` of an occurrence to `m - i`, where `m` is the
last start at which the pattern fits, and the last of the starts becomes the first. So a backward scan
can be told by a forward scan of the reversed lists, although the two are different loops, with different
bounds and different ways to leave early.

* `Search.FirstIn.mirrored` is the law of answers: the mirror turns a first answer into a last one.
* `Search.occursAt_reverse_iff` is the law of occurrences.
* `Scan.backward_eq_mirrored_forward` puts them together for the scans. The limit of the backward scan
  becomes the start bound of the forward scan, after it was brought to `m` where it is beyond.
-/

namespace Haystack

namespace Search

variable {α β : Type} {agree : α → β → Bool} {xs : List α} {ys : List β} {i m : Nat}

/-- **The mirror of a first answer is a last answer**, if it takes place at `m` and no start is beyond. -/
theorem FirstIn.mirrored {starts : Set Nat} {found : Option Nat} (h : FirstIn starts found)
    (hm : ∀ i ∈ starts, i ≤ m) : LastIn {i | i ≤ m ∧ m - i ∈ starts} (found.map (m - ·)) := by
  cases found with
  | none => exact lastIn_none_iff.2 fun i hi => firstIn_none_iff.1 h (m - i) hi.2
  | some j =>
    have hj : j ≤ m := hm j h.1
    refine ⟨⟨Nat.sub_le _ _, ?_⟩, ?_⟩
    · -- seen in the mirror twice, the first start is itself
      rw [Nat.sub_sub_self hj]
      exact h.1
    · rintro i ⟨hi, hmem⟩
      -- whatever the mirror takes to a start is no later than the first one is taken to
      have hle : j ≤ m - i := h.2 hmem
      show i ≤ m - j
      omega

/-- One direction of `occursAt_reverse_iff`: what lies on the item at `j` lies on the item at `j` from the
other end. -/
private theorem OccursAt.reverse (h : OccursAt agree xs ys i) :
    OccursAt agree xs.reverse ys.reverse (xs.length - ys.length - i) := by
  obtain ⟨hfits, hagree⟩ := h
  refine ⟨?_, fun j x y hx hy => ?_⟩
  · rw [List.length_reverse, List.length_reverse]
    omega
  · -- counted from the other end, the two items that lie on each other are the same
    have hj : j < ys.length := by
      rw [← List.length_reverse]
      exact (List.getElem?_eq_some_iff.1 hy).1
    rw [List.getElem?_reverse (by omega)] at hx
    rw [List.getElem?_reverse hj] at hy
    refine hagree (ys.length - 1 - j) x y ?_ hy
    rw [← hx]
    congr 1
    omega

/-- **Occurrences in the mirror.** -/
theorem occursAt_reverse_iff (h : i + ys.length ≤ xs.length) :
    OccursAt agree xs.reverse ys.reverse (xs.length - ys.length - i) ↔ OccursAt agree xs ys i := by
  refine ⟨fun hmirror => ?_, OccursAt.reverse⟩
  -- reversing twice changes nothing
  have htwice := hmirror.reverse
  simp only [List.reverse_reverse, List.length_reverse] at htwice
  rw [Nat.sub_sub_self (by omega)] at htwice
  exact htwice

end Search

namespace Scan

open Search

variable {α β : Type} (agree : α → β → Bool)

/-- **A backward scan is a forward scan in the mirror.** So it is for the scans by position, which both
read in range. -/
theorem backward_eq_mirrored_forward (haystack : List α) (pattern : List β) (limit : Int)
    (hfit : pattern.length ≤ haystack.length) (hlimit : 0 ≤ limit) :
    backward agree haystack pattern limit
        = (forward agree haystack.reverse pattern.reverse
          (haystack.length - pattern.length - min limit (haystack.length - pattern.length))).map
            (haystack.length - pattern.length - ·)
      ∧ IndexedScan.backward agree haystack pattern limit
        = (IndexedScan.forward agree haystack.reverse pattern.reverse
          (haystack.length - pattern.length - min limit (haystack.length - pattern.length))).map
            (Option.map (haystack.length - pattern.length - ·)) := by
  have hmirror : backward agree haystack pattern limit
      = (forward agree haystack.reverse pattern.reverse
        (haystack.length - pattern.length - min limit (haystack.length - pattern.length))).map
          (haystack.length - pattern.length - ·) := by
    refine (lastIn_backward agree haystack pattern limit).unique ?_
    have hfirst := firstIn_forward agree haystack.reverse pattern.reverse
      (haystack.length - pattern.length - min limit (haystack.length - pattern.length))
    rw [List.length_reverse] at hfirst
    -- the pattern fits as often in the mirror as it does before it
    have hlast := hfirst.mirrored (m := haystack.length - pattern.length) fun i hi => by
      have hfits := hi.2.1
      rw [List.length_reverse, List.length_reverse] at hfits
      omega
    convert hlast using 1
    ext i
    show _ ∧ _ ↔ _ ∧ _ ∧ _
    -- what is brought in on either side is the limit, cut off at the last start that fits
    constructor
    · rintro ⟨hi, hoccurs⟩
      have hfits := hoccurs.1
      exact ⟨by omega, by omega, (occursAt_reverse_iff hfits).2 hoccurs⟩
    · rintro ⟨hi, hstart, hoccurs⟩
      exact ⟨by omega, (occursAt_reverse_iff (by omega)).1 hoccurs⟩
  refine ⟨hmirror, ?_⟩
  -- both scans by position answer as those of lists
  rw [IndexedScan.backward_eq, IndexedScan.forward_eq, hmirror]
  rfl

/-- The last of two starts, the empty pattern in the middle, and a limit beyond the last start. -/
theorem backward_eq_mirrored_forward_smaller :
    [(3 : Int), 6].length ≤ [(1 : Int), 5, 2, 4, 3].length ∧ (0 : Int) ≤ Int64.maxValue.toInt
      ∧ backward Agreement.less [1, 5, 2, 4, 3] [3, 6] Int64.maxValue.toInt
        = (forward Agreement.less [3, 4, 2, 5, 1] [6, 3] 0).map (3 - ·)
      ∧ backward Agreement.less [1, 5, 2, 4, 3] [] 2
        = (forward Agreement.less [3, 4, 2, 5, 1] [] 3).map (5 - ·) := by
  have hless := backward_eq_mirrored_forward Agreement.less [1, 5, 2, 4, 3] [3, 6]
    Int64.maxValue.toInt (by decide) (by decide)
  have hempty := backward_eq_mirrored_forward Agreement.less [1, 5, 2, 4, 3] [] 2 (by decide)
    (by decide)
  exact ⟨by decide, by decide, hless.1, hempty.1⟩

end Scan

end Haystack
