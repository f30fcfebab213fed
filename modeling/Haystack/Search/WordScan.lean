import Haystack.Search.IndexedScan

/-!
# Scans in machine words

The scans by position, once more, with everything checked that memory and machine words can spoil. A
`Block` is a list of items whose number is a word of 64 bits, and positions in it are such words. Three
things end a scan with a `Fault`:

* a read that is out of range;
* a sum or a difference that is no word, where a machine would go on with another position;
* a part of the haystack that is shorter than the items of the pattern it is compared with. Both are gone
  through together, so what is left of the pattern would count as found.

Bounds are signed words. A bound is a position only if it is not negative (`position?`), and a difference
that decides on an exit is one that may fail (`difference?`).
-/

namespace Haystack

/-- Items in a row, as many as a word can count. -/
structure Block (α : Type) where
  items : List α
  length_lt : items.length < UInt64.size

namespace WordScan

variable {α β : Type}

/-- What can end a scan before its time. -/
inductive Fault where
  /-- A read that is out of range. -/
  | outOfRange (read : OutOfRange)
  /-- A sum that is no word. -/
  | overflow (x y : UInt64)
  /-- A difference that is no word. -/
  | underflow (x y : UInt64)
  /-- A pattern of which only a part would be compared. -/
  | cutShort (pattern part : Nat)
  deriving DecidableEq

/-! ### Words -/

/-- The position that a bound is, unless it is negative. -/
def position? (bound : Int64) : Option UInt64 :=
  if bound < 0 then none else some bound.toUInt64

/-- The sum of two words, which faults where it would wrap. -/
def sum (x y : UInt64) : Except Fault UInt64 :=
  if x.toNat + y.toNat < UInt64.size then .ok (x + y) else .error (.overflow x y)

/-- A difference, if there is one. -/
def difference? (x y : UInt64) : Option UInt64 :=
  if x < y then none else some (x - y)

/-- The difference of two words, which faults where it would wrap. -/
def difference (x y : UInt64) : Except Fault UInt64 :=
  match difference? x y with
  | some z => .ok z
  | none => .error (.underflow x y)

/-- The positions from `i` to `j`, both of them included. -/
def upTo (i j : UInt64) : List UInt64 :=
  (List.range' i.toNat (j.toNat + 1 - i.toNat)).map .ofNat

/-! ### Blocks -/

/-- How many items a block has. -/
def length (xs : Block α) : UInt64 :=
  .ofNat xs.items.length

/-- The item at position `i`. -/
def item (xs : Block α) (i : UInt64) : Except Fault α :=
  (IndexedScan.item xs.items i.toNat).mapError .outOfRange

/-- The part from position `i` on, up to position `j`. -/
def part (xs : Block α) (i j : UInt64) : Except Fault (Block α) :=
  if i.toNat ≤ j.toNat ∧ j.toNat ≤ xs.items.length then
    .ok ⟨(xs.items.take j.toNat).drop i.toNat,
      Nat.lt_of_le_of_lt ((List.drop_sublist _ _).trans (List.take_sublist _ _)).length_le
        xs.length_lt⟩
  else .error (.outOfRange ⟨i.toNat, j.toNat, xs.items.length⟩)

/-- The items of a pattern, each with the item of a block that it lies on. -/
def pairs (ys : List β) (xs : Block α) : Except Fault (List (β × α)) :=
  if ys.length ≤ xs.items.length then .ok (ys.zip xs.items)
  else .error (.cutShort ys.length xs.items.length)

/-! ### One start -/

/-- Whether the pattern `first :: rest` occurs at position `i`. -/
def occursForwards (agree : α → β → Bool) (haystack : Block α) (first : β) (rest : List β)
    (i : UInt64) : Except Fault Bool := do
  if agree (← item haystack i) first then
    let behind ← part haystack (← sum i 1) (length haystack)
    return (← pairs rest behind).all fun (y, x) => agree x y
  else
    return false

/-- Whether the pattern `rest ++ [last]` occurs at position `i`. -/
def occursBackwards (agree : α → β → Bool) (haystack : Block α) (rest : List β) (last : β)
    (i : UInt64) : Except Fault Bool := do
  let tail : UInt64 := .ofNat rest.length
  if agree (← item haystack (← sum i tail)) last then
    let before ← part haystack i (← sum i tail)
    return (← pairs rest before).reverse.all fun (y, x) => agree x y
  else
    return false

/-! ### The scans -/

/-- **The forward scan** tries the starts from `start` to the last one at which the pattern fits. -/
def forward (agree : α → β → Bool) (haystack : Block α) (pattern : Block β) (start : Int64) :
    Except Fault (Option UInt64) :=
  let start := (position? start).getD 0
  if length haystack ≤ start then
    .ok (if pattern.items.isEmpty then some (length haystack) else none)
  else
    match pattern.items with
    | [] => .ok (some start)
    | first :: rest =>
      match difference? (length haystack) (length pattern) with
      | none => .ok none
      | some last =>
        if last < start then .ok none
        else (upTo start last).findM? (occursForwards agree haystack first rest)

/-- **The backward scan** tries the starts from the last one that is allowed down to the front. -/
def backward (agree : α → β → Bool) (haystack : Block α) (pattern : Block β) (limit : Int64) :
    Except Fault (Option UInt64) :=
  match position? limit with
  | none => .ok none
  | some limit =>
    match difference? (length haystack) (length pattern) with
    | none => .ok none
    | some last =>
      match pattern.items.getLast? with
      | none => .ok (some (min limit last))
      | some y =>
        (upTo 0 (min limit last)).reverse.findM?
          (occursBackwards agree haystack pattern.items.dropLast y)

/-- The position at which a bounded scan ends. -/
def clampStop (haystack : Block α) (stop : Int64) : UInt64 :=
  match position? stop with
  | some stop => min stop (length haystack)
  | none => 0

/-- **The bounded forward scan** scans the part of the haystack before `stop`. -/
def forwardWithin (agree : α → β → Bool) (haystack : Block α) (pattern : Block β)
    (start stop : Int64) : Except Fault (Option UInt64) := do
  let stop := clampStop haystack stop
  if stop < (position? start).getD 0 then return none
  else forward agree (← part haystack 0 stop) pattern start

/-! ### Single items -/

/-- The number of the first item that is accepted, where the items are numbered from `i` on. The number
of the next item is there before the item is looked at. -/
def ascending (accept : α → Bool) (i : UInt64) : List α → Except Fault (Option UInt64)
  | [] => .ok none
  | x :: xs => do
    let next ← sum i 1
    if accept x then return some i else ascending accept next xs

/-- The number of the first item that is accepted, where the items are numbered down from before `i`. -/
def descending (accept : α → Bool) (i : UInt64) : List α → Except Fault (Option UInt64)
  | [] => .ok none
  | x :: xs => do
    let i ← difference i 1
    if accept x then return some i else descending accept i xs

/-- **The forward scan for a single item** skips the items before `start`. -/
def forwardItem (agree : α → β → Bool) (haystack : Block α) (y : β) (start : Int64) :
    Except Fault (Option UInt64) :=
  let start := (position? start).getD 0
  ascending (fun x => agree x y) start (haystack.items.drop start.toNat)

/-- **The backward scan for a single item** goes through the part up to `limit` from its end. -/
def backwardItem (agree : α → β → Bool) (haystack : Block α) (y : β) (limit : Int64) :
    Except Fault (Option UInt64) :=
  match position? limit with
  | none => .ok none
  | some limit =>
    match difference? (length haystack) 1 with
    | none => .ok none
    | some last => do
      let allowed ← part haystack 0 (← sum (min limit last) 1)
      descending (fun x => agree x y) (length allowed) allowed.items.reverse

end WordScan

end Haystack
