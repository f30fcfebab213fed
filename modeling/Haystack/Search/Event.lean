import Haystack.Search.Query

/-!
# Search events

Every query leaves one event in a log: that it was answered, with all that the answer depended on and
the answer itself, or that it was refused, with the class of the refusal. A refused query may lack its
pattern; its event then names the kind of the haystack, if there is one.

Logging is a state of its own beside the search. The answer to a query is computed by `Options.find`
and only reported afterwards, so that it cannot depend on the log.
-/

namespace Haystack

/-- What is recorded of a query. -/
inductive Event where
  /-- The query was answered. -/
  | finished (direction : Direction) (kind : Kind) (haystackLength patternLength : Nat)
      (start : Int64) (tolerance? : Option Double) (found : Option Nat)
  /-- The query was refused. -/
  | rejected (direction : Direction) (kind? : Option Kind) (errorClass : ErrorClass)
  deriving DecidableEq

namespace Event

variable {ε : Type}

/-- **The event of a query**, from the answer that was given to it. An answer that was found without a
pattern would leave no event. -/
def ofAnswer? (o : Options) (d : Direction) (haystack? pattern? : Option (TypedArray ε)) :
    Except SearchError (Option Nat) → Option Event
  | .error e => some (.rejected d ((pattern?.or haystack?).map TypedArray.kind) e.errorClass)
  | .ok found =>
    pattern?.map fun pattern =>
      .finished d pattern.kind ((haystack?.map TypedArray.length).getD 0) pattern.length
        (o.startFor d) o.tolerance? found

end Event

/-- A computation that writes events to a log. -/
abbrev Logged := StateM (List Event)

namespace Logged

variable {ε : Type}

/-- Adds an event, if there is one, at the end of the log. -/
def record (e? : Option Event) : Logged Unit :=
  modify (· ++ e?.toList)

/-- **A query that is recorded.** -/
def find (o : Options) (d : Direction) (equal : ε → ε → Bool)
    (haystack? pattern? : Option (TypedArray ε)) : Logged (Except SearchError (Option Nat)) := do
  let answer := o.find d equal haystack? pattern?
  record (Event.ofAnswer? o d haystack? pattern? answer)
  return answer

/-- The first occurrence, recorded. -/
def firstIndexOf (o : Options) (equal : ε → ε → Bool) (haystack? pattern? : Option (TypedArray ε)) :
    Logged (Except SearchError (Option Nat)) :=
  find o .forward equal haystack? pattern?

/-- The last occurrence, recorded. -/
def lastIndexOf (o : Options) (equal : ε → ε → Bool) (haystack? pattern? : Option (TypedArray ε)) :
    Logged (Except SearchError (Option Nat)) :=
  find o .backward equal haystack? pattern?

/-- Whether there is an occurrence, recorded as the forward search that it is. -/
def contains (o : Options) (equal : ε → ε → Bool) (haystack? pattern? : Option (TypedArray ε)) :
    Logged (Except SearchError Bool) := do
  return (← firstIndexOf o equal haystack? pattern?).map Option.isSome

end Logged

end Haystack
