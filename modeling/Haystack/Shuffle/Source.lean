import Haystack.Shuffle.Words

/-!
# Sources of positions

The sources that a shuffle can be driven by: a script that is gone through again and again, a counter
taken modulo the bound, a source that always gives the last position, and a stream of random words from
which positions are drawn uniformly. Scripts do not look at the bound, so their draws may be out of
range.

A `Recorder` wraps a source and keeps, for every draw, the bound that was asked for and the position
that was given.
-/

namespace Haystack

/-- A source of positions, with its state. -/
inductive Source where
  /-- The draws to give, and how many were given already. -/
  | script (draws : List Nat) (given : Nat)
  /-- The next value of the counter. -/
  | counter (value : Nat)
  /-- Always the last position. -/
  | last
  /-- Uniform draws from a stream of words. -/
  | words (stream : WordStream)

namespace Source

/-- **A draw.** An empty script gives zeros. -/
def next (bound : Nat) : Source → Nat × Source
  | script draws given => (draws.getD (given % draws.length) 0, script draws (given + 1))
  | counter value => (value % bound, counter (value + 1))
  | last => (bound - 1, last)
  | words stream =>
    let (i, stream) := stream.draw bound
    (i, words stream)

/-- How many words were taken from the stream, for a source that has one. -/
def wordsTaken? : Source → Option Nat
  | words stream => some stream.taken
  | _ => none

end Source

/-- A source in some state and the draws that it has given: for each the bound and the position. -/
structure Recorder (σ : Type) where
  source : σ
  draws : List (Nat × Nat)

namespace Recorder

variable {σ : Type}

/-- A source that has given nothing yet. -/
def start (source : σ) : Recorder σ :=
  ⟨source, []⟩

/-- A draw from a source, put on record. -/
def next (draw : Nat → σ → Nat × σ) (bound : Nat) (r : Recorder σ) : Nat × Recorder σ :=
  let (i, source) := draw bound r.source
  (i, ⟨source, r.draws ++ [(bound, i)]⟩)

/-- Recording changes neither the position nor the source. -/
theorem next_source (draw : Nat → σ → Nat × σ) (bound : Nat) (r : Recorder σ) :
    ((r.next draw bound).1, (r.next draw bound).2.source) = draw bound r.source :=
  rfl

end Recorder

end Haystack
