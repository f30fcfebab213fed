import Haystack.Search.Slice

/-!
# Search options

What a caller may say about a search in arrays of any kind: where to start, where to stop, and how
close floating-point items have to be. Everything is optional, and what is left out depends on the
direction: a forward search starts at the front, a backward search at the end.

Options are plain data. A tolerance in them may be anything; `Options.window` is where it becomes a
`Tolerance`, or a refusal.
-/

namespace Haystack

/-- The direction of a search. -/
inductive Direction where
  | forward
  | backward
  deriving DecidableEq

/-- The name of a direction. -/
def Direction.label : Direction → String
  | forward => "forward"
  | backward => "backward"

/-- **The options of a search.** -/
structure Options where
  /-- The first start that a forward search allows, or the last one that a backward search allows. -/
  start? : Option Int64
  /-- The position before which an occurrence has to end; for forward searches only. -/
  stop? : Option Int64
  /-- The half-width of the window for floating-point items. -/
  tolerance? : Option Double
  deriving DecidableEq

namespace Options

/-- The options that say nothing. -/
def empty : Options where
  start? := none
  stop? := none
  tolerance? := none

/-- The options with another start bound. -/
def withStart (o : Options) (start : Int64) : Options :=
  { o with start? := some start }

/-- The options with another end bound. -/
def withStop (o : Options) (stop : Int64) : Options :=
  { o with stop? := some stop }

/-- The options with another tolerance. -/
def withTolerance (o : Options) (tolerance : Double) : Options :=
  { o with tolerance? := some tolerance }

/-- The start bound of a forward search. -/
def forwardStart (o : Options) : Int64 :=
  o.start?.getD 0

/-- The start bound of a backward search. -/
def backwardStart (o : Options) : Int64 :=
  o.start?.getD fromEnd

/-- The start bound of a search in a direction. -/
def startFor (o : Options) : Direction → Int64
  | .forward => o.forwardStart
  | .backward => o.backwardStart

/-- **The window that the options ask for**, the empty one if they name none. -/
def window (o : Options) : Except SearchError (Tolerance .double) :=
  match o.tolerance? with
  | some x => Tolerance.ofWidth? x
  | none => .ok (.zero .double)

/-- Whether the tolerance, if there is one, is a proper window. -/
def validate (o : Options) : Except SearchError Unit :=
  o.window.map fun _ => ()

end Options

end Haystack
