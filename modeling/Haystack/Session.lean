import Haystack.Options.Encoding
import Haystack.Search.Event
import Haystack.Shuffle.Basic
import Haystack.Shuffle.Source
import Haystack.Value.Tally

/-!
# Sessions

A session keeps an array at hand and works on it step by step: it searches the array under options
that may change, shuffles it, sets a copy aside and gets it back, nests it in a larger array, and
collects arrays in a pool without repetition. Its opaque values are strings.

A step that is refused leaves the session as it was and answers with the refusal. The one thing that
ends a session is a source of positions that makes a shuffle impossible.
-/

namespace Haystack.Session

/-- The state of a session. -/
structure State where
  current : ElementArray String
  saved? : Option (ElementArray String)
  options : Options
  recorder : Recorder Source
  /-- The arrays collected so far. -/
  pool : Tally (ElementArray String)
  /-- The events since they were last asked for. -/
  log : List Event

/-- A step of a session. -/
inductive Step where
  | first (pattern? : Option (ElementArray String))
  | last (pattern? : Option (ElementArray String))
  | contains (pattern? : Option (ElementArray String))
  /-- Looks for the array that was set aside. -/
  | findSaved
  /-- Gives the events since the last time, and forgets them. -/
  | events
  | shuffle
  /-- Sets a copy of the array aside. -/
  | save
  /-- Exchanges the array and the one that was set aside. -/
  | swap
  | compareSaved
  | replace (array : ElementArray String)
  /-- Makes the array the first reference of a new one. -/
  | wrap (others : List (Element String))
  /-- Collects a copy of the array. -/
  | collect
  | setStart (i : Int64)
  | setStop (i : Int64)
  | setTolerance (x : Double)
  | resetOptions

/-- The answer to a step. -/
inductive Reply where
  | found (index? : Option Nat)
  | present (b : Bool)
  | refused (e : SearchError)
  | events (log : List Event)
  | shuffled (array : ElementArray String) (draws : Nat)
  | hash (h : Int32)
  | array (array : ElementArray String)
  /-- Nothing was set aside. -/
  | nothingSaved
  | compared (equal : Bool) (hash savedHash : Int32)
  | shape (kind : Kind) (length : Nat) (isEmpty : Bool)
  | wrapped (hash : Int32) (length : Nat)
  | collected (isNew : Bool) (size : Nat)
  | options (o : Options)

/-- The state at the beginning. -/
def State.start (current : ElementArray String) (options : Options) (source : Source) : State where
  current := current
  saved? := none
  options := options
  recorder := .start source
  pool := .empty
  log := []

/-- How the opaque values of a session are compared and hashed. -/
def rule : ScalarRule String :=
  .byValue

/-- The reply to a search for a position. -/
def Reply.ofIndex : Except SearchError (Option Nat) → Reply
  | .ok index => .found index
  | .error e => .refused e

/-- The reply to a search for presence. -/
def Reply.ofPresence : Except SearchError Bool → Reply
  | .ok b => .present b
  | .error e => .refused e

namespace State

variable (s : State)

/-- A search of the current array, recorded in the log of the session. -/
def search {β : Type}
    (query : (Element String → Element String → Bool) → Option (ElementArray String) →
      Option (ElementArray String) → Logged β)
    (pattern? : Option (ElementArray String)) (reply : β → Reply) : Reply × State :=
  let (answer, log) := (query rule.deepEq (some s.current) pattern?).run s.log
  (reply answer, { s with log := log })

/-- The session under other options. -/
def withOptions (o : Options) : Reply × State :=
  (.options o, { s with options := o })

/-- **A step of a session.** -/
def step : Step → Except BadSwap (Reply × State)
  | .first pattern? => .ok (s.search (Logged.firstIndexOf s.options) pattern? .ofIndex)
  | .last pattern? => .ok (s.search (Logged.lastIndexOf s.options) pattern? .ofIndex)
  | .contains pattern? => .ok (s.search (Logged.contains s.options) pattern? .ofPresence)
  | .findSaved => .ok (s.search (Logged.firstIndexOf s.options) s.saved? .ofIndex)
  | .events => .ok (.events s.log, { s with log := [] })
  | .shuffle =>
    let (result, recorder) := Shuffle.array (Recorder.next Source.next) s.current s.recorder
    result.map fun array =>
      (.shuffled array recorder.draws.length, { s with current := array, recorder := recorder })
  | .save =>
    .ok (.hash (rule.structuralHashArray s.current), { s with saved? := some s.current })
  | .swap =>
    match s.saved? with
    | some saved => .ok (.array saved, { s with current := saved, saved? := some s.current })
    | none => .ok (.array s.current, s)
  | .compareSaved =>
    match s.saved? with
    | some saved =>
      .ok (.compared (rule.deepEqArray s.current saved) (rule.structuralHashArray s.current)
        (rule.structuralHashArray saved), s)
    | none => .ok (.nothingSaved, s)
  | .replace array => .ok (.shape array.kind array.length array.isEmpty, { s with current := array })
  | .wrap others =>
    let array : ElementArray String := .reference (.array s.current :: others)
    .ok (.wrapped (rule.structuralHashArray array) array.length, { s with current := array })
  | .collect =>
    let pool := s.pool.insert rule.deepEqArray s.current
    .ok (.collected (pool.count rule.deepEqArray s.current == 1) pool.size, { s with pool := pool })
  | .setStart i => .ok (s.withOptions (s.options.withStart i))
  | .setStop i => .ok (s.withOptions (s.options.withStop i))
  | .setTolerance x => .ok (s.withOptions (s.options.withTolerance x))
  | .resetOptions => .ok (s.withOptions .empty)

/-- **A run of a session**: the replies to all steps. -/
def run (s : State) : List Step → Except BadSwap (List Reply)
  | [] => .ok []
  | t :: ts =>
    match s.step t with
    | .error e => .error e
    | .ok (reply, s) => (run s ts).map (reply :: ·)

end State

end Haystack.Session
