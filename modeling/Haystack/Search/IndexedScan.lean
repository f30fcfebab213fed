/-!
# Scans by position

The scans of a haystack that is a block in memory and is read by position. They answer as the scans
that walk down a list do, but they work less and risk more:

* They leave early. Bounds that cross, a bound past the end, and a pattern that is empty or longer than
  the haystack are settled before any item is looked at.
* They try one item first, the first item of the pattern forwards and the last one backwards. The other
  items are compared only where that one agrees.
* They read at computed positions, and a read that is out of range ends the scan with `OutOfRange`. The
  other items are compared along a part of the haystack, as far as both the part and the pattern go: if
  the part were too short, what is left of the pattern would not be compared at all.

The scans for a single item number the items of the haystack, and look at nothing but the numbered items.
Forwards they skip the items before the bound; backwards they read the part up to the bound, which is
brought to the last item, and leave early if there is no last item.
-/

namespace Haystack

/-- A read that is out of range. -/
structure OutOfRange where
  /-- The first position to read. -/
  first : Nat
  /-- The position before which the read ends. -/
  stop : Nat
  /-- The number of items that there were. -/
  length : Nat
  deriving DecidableEq

namespace IndexedScan

variable {α β : Type}

/-! ### Reads -/

/-- The item at position `i`. -/
def item (xs : List α) (i : Nat) : Except OutOfRange α :=
  match xs[i]? with
  | some x => .ok x
  | none => .error ⟨i, i + 1, xs.length⟩

/-- The part from position `i` on, up to position `j`. -/
def part (xs : List α) (i j : Nat) : Except OutOfRange (List α) :=
  if i ≤ j ∧ j ≤ xs.length then .ok ((xs.take j).drop i) else .error ⟨i, j, xs.length⟩

/-! ### One start -/

/-- Whether the pattern `first :: rest` occurs at position `i`. -/
def occursForwards (agree : α → β → Bool) (haystack : List α) (first : β) (rest : List β) (i : Nat) :
    Except OutOfRange Bool := do
  if agree (← item haystack i) first then
    return (rest.zip (← part haystack (i + 1) haystack.length)).all fun (y, x) => agree x y
  else
    return false

/-- Whether the pattern `rest ++ [last]` occurs at position `i`. -/
def occursBackwards (agree : α → β → Bool) (haystack : List α) (rest : List β) (last : β) (i : Nat) :
    Except OutOfRange Bool := do
  if agree (← item haystack (i + rest.length)) last then
    return (rest.zip (← part haystack i (i + rest.length))).reverse.all fun (y, x) => agree x y
  else
    return false

/-! ### The scans -/

/-- **The forward scan** tries the starts from `start` to the last one at which the pattern fits. -/
def forward (agree : α → β → Bool) (haystack : List α) (pattern : List β) (start : Int) :
    Except OutOfRange (Option Nat) :=
  if haystack.length ≤ start.toNat then
    .ok (if pattern.isEmpty then some haystack.length else none)
  else
    match pattern with
    | [] => .ok (some start.toNat)
    | first :: rest =>
      if haystack.length < (first :: rest).length then .ok none
      else
        let last := haystack.length - (first :: rest).length
        if last < start.toNat then .ok none
        else
          (List.range' start.toNat (last + 1 - start.toNat)).findM?
            (occursForwards agree haystack first rest)

/-- **The backward scan** tries the starts from the last one that is allowed down to the front. -/
def backward (agree : α → β → Bool) (haystack : List α) (pattern : List β) (limit : Int) :
    Except OutOfRange (Option Nat) :=
  if limit < 0 then .ok none
  else if haystack.length < pattern.length then .ok none
  else
    let start := min limit.toNat (haystack.length - pattern.length)
    match pattern.getLast? with
    | none => .ok (some start)
    | some last =>
      (List.range (start + 1)).reverse.findM?
        (occursBackwards agree haystack pattern.dropLast last)

/-- **The bounded forward scan** scans the part of the haystack before `stop`. -/
def forwardWithin (agree : α → β → Bool) (haystack : List α) (pattern : List β) (start stop : Int) :
    Except OutOfRange (Option Nat) := do
  let stop := min stop.toNat haystack.length
  if stop < start.toNat then return none
  else forward agree (← part haystack 0 stop) pattern start

/-! ### Single items -/

/-- The number of a numbered item that agrees with the item `y`. -/
def numberIf (agree : α → β → Bool) (y : β) : α × Nat → Option Nat
  | (x, i) => if agree x y then some i else none

/-- **The forward scan for a single item** skips the items before `start`. -/
def forwardItem (agree : α → β → Bool) (haystack : List α) (y : β) (start : Int) : Option Nat :=
  (haystack.zipIdx.drop start.toNat).findSome? (numberIf agree y)

/-- **The backward scan for a single item** goes through the part up to `limit` from its end. -/
def backwardItem (agree : α → β → Bool) (haystack : List α) (y : β) (limit : Int) :
    Except OutOfRange (Option Nat) :=
  if limit < 0 then .ok none
  else
    match haystack.length with
    | 0 => .ok none
    | last + 1 => do
      let allowed ← part haystack 0 (min limit.toNat last + 1)
      return allowed.zipIdx.reverse.findSome? (numberIf agree y)

end IndexedScan

end Haystack
