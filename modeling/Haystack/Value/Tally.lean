/-!
# Counting keys

A `Tally` counts how often each of its keys was seen, up to an equality of keys. Its keys stand in the
order in which they were first seen, and no two of them are equal.
-/

namespace Haystack

/-- Keys and how often each was seen. -/
structure Tally (κ : Type) where
  entries : List (κ × Nat)

namespace Tally

variable {κ : Type}

/-- Nothing was seen. -/
def empty : Tally κ :=
  ⟨[]⟩

/-- The number of different keys. -/
def size (t : Tally κ) : Nat :=
  t.entries.length

/-- How often a key was seen. -/
def count (equal : κ → κ → Bool) (t : Tally κ) (k : κ) : Nat :=
  ((t.entries.find? fun e => equal e.1 k).map Prod.snd).getD 0

/-- Counts a key once more in a list of entries. -/
def bump (equal : κ → κ → Bool) (k : κ) : List (κ × Nat) → List (κ × Nat)
  | [] => [(k, 1)]
  | (l, n) :: rest => if equal l k then (l, n + 1) :: rest else (l, n) :: bump equal k rest

/-- **Counts a key once more.** -/
def insert (equal : κ → κ → Bool) (t : Tally κ) (k : κ) : Tally κ :=
  ⟨bump equal k t.entries⟩

/-- The keys seen one after the other, and for each its count so far and the number of keys so far. -/
def running (equal : κ → κ → Bool) (t : Tally κ) : List κ → List (Nat × Nat)
  | [] => []
  | k :: ks =>
    let u := t.insert equal k
    (u.count equal k, u.size) :: running equal u ks

end Tally

end Haystack
