import Haystack.Search.Options

/-!
# Searching arrays of any kind

A query looks for one typed array in another under options. What can be wrong with it is checked in a
fixed order, and the first thing that is wrong is reported:

1. there is no pattern;
2. the tolerance is NaN or below zero;
3. a tolerance is given, and the kind of the pattern compares exactly;
4. the search is backward, and an end bound is given;
5. there is a haystack, and its kind is not that of the pattern.

An absent haystack comes before the last check: nothing is found in it, whatever the pattern holds.
The search itself happens on the item lists, under the rule of their common kind.
-/

namespace Haystack

namespace Options

variable {α ε : Type}

/-- The scan that the options ask for, in a direction. -/
def scan (o : Options) (d : Direction) (agree : α → α → Bool) (haystack pattern : List α) :
    Option Nat :=
  match d with
  | .backward => Scan.backward agree haystack pattern o.backwardStart.toInt
  | .forward =>
    match o.stop? with
    | some stop => Scan.forwardWithin agree haystack pattern o.forwardStart.toInt stop.toInt
    | none => Scan.forward agree haystack pattern o.forwardStart.toInt

/-- The scan of two arrays, which have to be of one kind. -/
def scanArrays (o : Options) (d : Direction) (equal : ε → ε → Bool) (t : Tolerance .double) :
    TypedArray ε → TypedArray ε → Except SearchError (Option Nat)
  | .flat ⟨k, xs⟩, .flat ⟨l, ys⟩ =>
    -- equal kinds make the items of the pattern items of the haystack's kind
    if h : l = k then .ok (o.scan d (k.searchRule.agree (k.windowOf t)) xs (h ▸ ys))
    else .error (.kindMismatch (.flat k) (.flat l))
  | .reference xs, .reference ys => .ok (o.scan d equal xs ys)
  | haystack, pattern => .error (.kindMismatch haystack.kind pattern.kind)

/-- The search for a pattern that is there. -/
def locate (o : Options) (d : Direction) (equal : ε → ε → Bool) (haystack? : Option (TypedArray ε))
    (pattern : TypedArray ε) : Except SearchError (Option Nat) :=
  match o.window with
  | .error e => .error e
  | .ok t =>
    if o.tolerance?.isSome ∧ ¬pattern.kind.supportsTolerance then
      .error (.toleranceUnsupported pattern.kind)
    else if d = .backward ∧ o.stop?.isSome then .error .endBoundUnsupported
    else
      match haystack? with
      | none => .ok none
      | some haystack => o.scanArrays d equal t haystack pattern

/-- **The answer to a query**: where the pattern was found, if it was, or why the query is refused.
References agree as `equal` says. -/
def find (o : Options) (d : Direction) (equal : ε → ε → Bool)
    (haystack? pattern? : Option (TypedArray ε)) : Except SearchError (Option Nat) :=
  match pattern? with
  | none => .error .nullPattern
  | some pattern => o.locate d equal haystack? pattern

/-- The first occurrence. -/
def firstIndexOf (o : Options) (equal : ε → ε → Bool) (haystack? pattern? : Option (TypedArray ε)) :
    Except SearchError (Option Nat) :=
  o.find .forward equal haystack? pattern?

/-- The last occurrence. -/
def lastIndexOf (o : Options) (equal : ε → ε → Bool) (haystack? pattern? : Option (TypedArray ε)) :
    Except SearchError (Option Nat) :=
  o.find .backward equal haystack? pattern?

/-- Whether there is an occurrence. -/
def contains (o : Options) (equal : ε → ε → Bool) (haystack? pattern? : Option (TypedArray ε)) :
    Except SearchError Bool :=
  (o.firstIndexOf equal haystack? pattern?).map Option.isSome

end Options

end Haystack
