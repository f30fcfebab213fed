import Haystack.Search.Rule
import Haystack.Search.Scan

/-!
# Searching slices

Searches in lists of items under the search rule of their kind.

The first group of functions takes slices that may be absent, as they come from a caller. An absent
haystack holds nothing, so nothing is found in it; an absent pattern is a mistake and is refused.

The second group, in the namespace `Slice`, works on slices that are there. Each function comes in
three forms: over the whole slice, from a bound on, and from a bound on within a window. Those that
name no window use the default one.
-/

namespace Haystack

/-- The index where there is none: what an index-or-minus-one says for "not found". -/
def notFound : Int := -1

/-- The bound that lets a backward scan begin at the very end. -/
def fromEnd : Int64 := Int64.maxValue

/-- An index, or `notFound`. -/
def sentinel (found : Option Nat) : Int :=
  match found with
  | some i => i
  | none => notFound

namespace SearchRule

variable {α : Type} (r : SearchRule α)

/-! ### Slices that may be absent -/

/-- The pattern of a search, which has to be there. -/
def requirePattern (pattern? : Option (List α)) : Except SearchError (List α) :=
  match pattern? with
  | some pattern => .ok pattern
  | none => .error .nullPattern

/-- The first occurrence from `start` on. -/
def firstIndexOf (haystack? pattern? : Option (List α)) (start : Int) (w : r.Window) :
    Except SearchError (Option Nat) :=
  (requirePattern pattern?).map fun pattern =>
    haystack?.bind fun haystack => Scan.forward (r.agree w) haystack pattern start

/-- The first occurrence from `start` on that ends before `stop`. -/
def firstIndexOfWithin (haystack? pattern? : Option (List α)) (start stop : Int) (w : r.Window) :
    Except SearchError (Option Nat) :=
  (requirePattern pattern?).map fun pattern =>
    haystack?.bind fun haystack => Scan.forwardWithin (r.agree w) haystack pattern start stop

/-- The last occurrence that starts at `limit` or before. -/
def lastIndexOf (haystack? pattern? : Option (List α)) (limit : Int) (w : r.Window) :
    Except SearchError (Option Nat) :=
  (requirePattern pattern?).map fun pattern =>
    haystack?.bind fun haystack => Scan.backward (r.agree w) haystack pattern limit

/-- Whether the pattern occurs at all. -/
def contains (haystack? pattern? : Option (List α)) (w : r.Window) : Except SearchError Bool :=
  (r.firstIndexOf haystack? pattern? 0 w).map Option.isSome

/-- The first place of an item from `start` on. -/
def firstIndexOfItem (haystack? : Option (List α)) (item : α) (start : Int) (w : r.Window) :
    Option Nat :=
  haystack?.bind fun haystack => Scan.forwardItem (r.agree w) haystack item start

/-- The last place of an item at `limit` or before. -/
def lastIndexOfItem (haystack? : Option (List α)) (item : α) (limit : Int) (w : r.Window) :
    Option Nat :=
  haystack?.bind fun haystack => Scan.backwardItem (r.agree w) haystack item limit

/-- Whether an item is there at all. -/
def containsItem (haystack? : Option (List α)) (item : α) (w : r.Window) : Bool :=
  (r.firstIndexOfItem haystack? item 0 w).isSome

end SearchRule

namespace Slice

variable {α : Type} (r : SearchRule α)

/-! ### Single items -/

/-- The first place of an item from `start` on, within a window. -/
def indexOfWithin (haystack : List α) (item : α) (start : Int) (w : r.Window) : Option Nat :=
  Scan.forwardItem (r.agree w) haystack item start

/-- The first place of an item from `start` on. -/
def indexOfFrom (haystack : List α) (item : α) (start : Int) : Option Nat :=
  indexOfWithin r haystack item start r.default

/-- The first place of an item. -/
def indexOf (haystack : List α) (item : α) : Option Nat :=
  indexOfFrom r haystack item 0

/-- The last place of an item at `limit` or before, within a window. -/
def lastIndexOfWithin (haystack : List α) (item : α) (limit : Int) (w : r.Window) : Option Nat :=
  Scan.backwardItem (r.agree w) haystack item limit

/-- The last place of an item at `limit` or before. -/
def lastIndexOfFrom (haystack : List α) (item : α) (limit : Int) : Option Nat :=
  lastIndexOfWithin r haystack item limit r.default

/-- The last place of an item. -/
def lastIndexOf (haystack : List α) (item : α) : Option Nat :=
  lastIndexOfFrom r haystack item fromEnd.toInt

/-- Whether an item is there. -/
def containsItem (haystack : List α) (item : α) : Bool :=
  (indexOf r haystack item).isSome

/-! ### Sequences -/

/-- The first occurrence of a pattern from `start` on, within a window. -/
def indexOfSeqWithin (haystack pattern : List α) (start : Int) (w : r.Window) : Option Nat :=
  Scan.forward (r.agree w) haystack pattern start

/-- The first occurrence of a pattern from `start` on. -/
def indexOfSeqFrom (haystack pattern : List α) (start : Int) : Option Nat :=
  indexOfSeqWithin r haystack pattern start r.default

/-- The first occurrence of a pattern. -/
def indexOfSeq (haystack pattern : List α) : Option Nat :=
  indexOfSeqFrom r haystack pattern 0

/-- The last occurrence of a pattern that starts at `limit` or before, within a window. -/
def lastIndexOfSeqWithin (haystack pattern : List α) (limit : Int) (w : r.Window) : Option Nat :=
  Scan.backward (r.agree w) haystack pattern limit

/-- The last occurrence of a pattern that starts at `limit` or before. -/
def lastIndexOfSeqFrom (haystack pattern : List α) (limit : Int) : Option Nat :=
  lastIndexOfSeqWithin r haystack pattern limit r.default

/-- The last occurrence of a pattern. -/
def lastIndexOfSeq (haystack pattern : List α) : Option Nat :=
  lastIndexOfSeqFrom r haystack pattern fromEnd.toInt

/-- Whether a pattern occurs. -/
def containsSeq (haystack pattern : List α) : Bool :=
  (indexOfSeq r haystack pattern).isSome

end Slice

end Haystack
