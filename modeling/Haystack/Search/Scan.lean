import Haystack.Search.Occurrence

/-!
# Linear scans

The scans behind every search. Agreement of items is any relation, so no occurrence can be ruled out
by having looked at another one: a scan tries the starts one by one, and a mismatch costs everything
that had matched so far.

Bounds may be any integers and are never an error. **Forwards**, a scan begins at the start bound, a
negative one meaning the front. **Backwards**, the bound names the last start that is allowed, and
below zero there is none. An empty pattern occurs everywhere, the end of the haystack included.

A scan for a single item is a function of its own: it reads each item once.
-/

namespace Haystack.Scan

variable {α β : Type}

/-- The first start of the pattern in `haystack`, whose front has position `i` in the whole. -/
def firstFrom (agree : α → β → Bool) (pattern : List β) (i : Nat) (haystack : List α) :
    Option Nat :=
  if Search.startsWith agree haystack pattern then some i
  else
    match haystack with
    | [] => none
    | _ :: rest => firstFrom agree pattern (i + 1) rest

/-- The last start of the pattern in `haystack` that is at most `limit`. -/
def lastUpTo (agree : α → β → Bool) (pattern : List β) : Nat → List α → Option Nat
  | limit + 1, x :: rest =>
    -- a later occurrence wins over one at the front
    match lastUpTo agree pattern limit rest with
    | some i => some (i + 1)
    | none => if Search.startsWith agree (x :: rest) pattern then some 0 else none
  | _, haystack => if Search.startsWith agree haystack pattern then some 0 else none

/-- **The forward scan**: the first occurrence from `start` on. A start past the end counts as the
end. -/
def forward (agree : α → β → Bool) (haystack : List α) (pattern : List β) (start : Int) :
    Option Nat :=
  let i := min start.toNat haystack.length
  firstFrom agree pattern i (haystack.drop i)

/-- **The bounded forward scan**: the first occurrence from `start` on that ends before `stop`. A stop
is brought into the haystack, and a start past it finds nothing, not even the empty pattern. -/
def forwardWithin (agree : α → β → Bool) (haystack : List α) (pattern : List β)
    (start stop : Int) : Option Nat :=
  let i := min stop.toNat haystack.length
  if i < start.toNat then none else forward agree (haystack.take i) pattern start

/-- **The backward scan**: the last occurrence that starts at `limit` or before. -/
def backward (agree : α → β → Bool) (haystack : List α) (pattern : List β) (limit : Int) :
    Option Nat :=
  if limit < 0 then none else lastUpTo agree pattern limit.toNat haystack

/-- The forward scan for a single item. -/
def forwardItem (agree : α → β → Bool) (haystack : List α) (item : β) (start : Int) : Option Nat :=
  let i := start.toNat
  ((haystack.drop i).findIdx? fun x => agree x item).map (· + i)

/-- The backward scan for a single item. -/
def backwardItem (agree : α → β → Bool) (haystack : List α) (item : β) (limit : Int) :
    Option Nat :=
  if limit < 0 then none
  else
    let allowed := haystack.take (limit.toNat + 1)
    (allowed.reverse.findIdx? fun x => agree x item).map (allowed.length - 1 - ·)

end Haystack.Scan
