import Haystack.Value.Element

/-!
# Shuffling by drawn pairs

A shuffle of `n` items makes `n` passes. Each pass draws two positions below `n` and exchanges the
items that stand there. This reaches every arrangement, though not all of them equally often. Lists of
fewer than two items have nothing to exchange, and nothing is drawn for them.

Positions come from a **source**, a function `next` that is given the bound and its own state and
gives a position and the next state. Sources are trusted as little as possible. A source may give
positions that are out of range: two equal ones leave the list alone, as any two equal positions do,
and two different ones end the shuffle with a `BadSwap`.
-/

namespace Haystack

/-- Two different positions, at least one of which is out of range. -/
structure BadSwap where
  first : Nat
  second : Nat
  /-- The number of items that there were. -/
  length : Nat
  deriving DecidableEq

namespace Shuffle

variable {α σ : Type}

/-- The list with the items at two positions exchanged. -/
def swap (xs : List α) (i j : Nat) : Except BadSwap (List α) :=
  match xs[i]?, xs[j]? with
  | some x, some y => .ok ((xs.set i y).set j x)
  | _, _ => .error ⟨i, j, xs.length⟩

/-- What a pass does with the two positions that it has drawn. -/
def exchange (xs : List α) (i j : Nat) : Except BadSwap (List α) :=
  if i = j then .ok xs else swap xs i j

/-- A number of passes over a list, all drawing below `bound`. -/
def passes (next : Nat → σ → Nat × σ) (bound : Nat) : Nat → List α → σ → Except BadSwap (List α) × σ
  | 0, xs, s => (.ok xs, s)
  | n + 1, xs, s =>
    let (i, s) := next bound s
    let (j, s) := next bound s
    match exchange xs i j with
    | .ok ys => passes next bound n ys s
    | .error e => (.error e, s)

/-- **The shuffle of a list**: as many passes as it has items. -/
def list (next : Nat → σ → Nat × σ) (xs : List α) (s : σ) : Except BadSwap (List α) × σ :=
  if xs.length ≤ 1 then (.ok xs, s) else passes next xs.length xs.length xs s

/-- The shuffle of a typed array; references move as they are, with all that is nested in them. -/
def array (next : Nat → σ → Nat × σ) (a : TypedArray α) (s : σ) :
    Except BadSwap (TypedArray α) × σ :=
  match a with
  | .flat ⟨k, xs⟩ =>
    let (r, s) := list next xs s
    (r.map fun ys => .flat ⟨k, ys⟩, s)
  | .reference xs =>
    let (r, s) := list next xs s
    (r.map .reference, s)

/-- Shuffles an array a number of times with one source, and gives the array after each time. -/
def repeated (next : Nat → σ → Nat × σ) :
    Nat → TypedArray α → σ → Except BadSwap (List (TypedArray α)) × σ
  | 0, _, s => (.ok [], s)
  | n + 1, a, s =>
    match array next a s with
    | (.error e, s) => (.error e, s)
    | (.ok b, s) =>
      let (r, s) := repeated next n b s
      (r.map (b :: ·), s)

end Shuffle

end Haystack
