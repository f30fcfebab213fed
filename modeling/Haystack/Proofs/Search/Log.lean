import Haystack.Proofs.Search.Dispatch

/-!
# The log tells what was asked and answered

A searcher may be given a log, and is then asked one thing after another. This file says what the log
holds at the end: one event for each call, in the order of the calls, and each event says of its call
what was asked and what was answered (`Reports`). The answers are those that would have been given
without a log.

That every call leaves an event is not plain from how events are made. An event of an answer names the
kind and the length of the pattern, so an answer without a pattern leaves none. It takes
`exists_pattern_of_search_ok` to know that nothing is ever answered without a pattern.

A call for presence is logged as the forward search that it is. Its event holds the position that was
found, of which the caller is told only that there is one.
-/

namespace Haystack

/-! ### Calls -/

/-- What a searcher can be asked for. -/
inductive Method where
  | first
  | last
  | contains
  deriving DecidableEq

namespace Method

/-- The direction in which a method searches. -/
def direction : Method → Direction
  | first | contains => .forward
  | last => .backward

end Method

/-- What the caller is told of an answer: the position, or only whether there is one. -/
inductive Finding where
  | index (found : Option Nat)
  | presence (b : Bool)
  deriving DecidableEq

/-- What a method tells of the position that was found. -/
def Method.tell : Method → Option Nat → Finding
  | first, found | last, found => .index found
  | contains, found => .presence found.isSome

/-- **A call of a searcher.** Either array may be absent, and each call may be about references of another
type. -/
structure Call where
  Reference : Type
  equal : Reference → Reference → Bool
  method : Method
  haystack? : Option (TypedArray Reference)
  pattern? : Option (TypedArray Reference)

namespace Call

/-- The answer to a call, without a log. -/
def answer (o : Options) (c : Call) : Except SearchError Finding :=
  match c.method with
  | .first => (o.firstIndexOf c.equal c.haystack? c.pattern?).map .index
  | .last => (o.lastIndexOf c.equal c.haystack? c.pattern?).map .index
  | .contains => (o.contains c.equal c.haystack? c.pattern?).map .presence

/-- The answer to a call, with a log. -/
def logged (o : Options) (c : Call) : Logged (Except SearchError Finding) := do
  match c.method with
  | .first => return (← Logged.firstIndexOf o c.equal c.haystack? c.pattern?).map .index
  | .last => return (← Logged.lastIndexOf o c.equal c.haystack? c.pattern?).map .index
  | .contains => return (← Logged.contains o c.equal c.haystack? c.pattern?).map .presence

/-- The answers to calls one after another, with one log. -/
def run (o : Options) : List Call → Logged (List (Except SearchError Finding))
  | [] => return []
  | c :: cs => do
    let first ← c.logged o
    let rest ← run o cs
    return first :: rest

/-! ### Events -/

/-- The kind that a refusal names: that of the pattern, or of the haystack if there is no pattern. -/
def kind? (c : Call) : Option Kind :=
  match c.pattern?, c.haystack? with
  | some p, _ => some p.kind
  | none, some h => some h.kind
  | none, none => none

/-- The length of the haystack, which is `0` if there is none. -/
def haystackLength (c : Call) : Nat :=
  match c.haystack? with
  | some h => h.length
  | none => 0

/-- The start bound as it was given; what it is if none was given depends on the direction. -/
def start (o : Options) (c : Call) : Int64 :=
  match o.start?, c.method.direction with
  | some i, _ => i
  | none, .forward => 0
  | none, .backward => fromEnd

/-- **An event reports a call.** A call that is answered is reported with everything that it was about and
with the position that was found, a call that is refused with the class of the refusal. -/
inductive Reports (o : Options) (c : Call) : Event → Prop
  | finished {p : TypedArray c.Reference} {found : Option Nat} (hpattern : c.pattern? = some p)
    (hfound : o.search c.method.direction c.equal c.haystack? c.pattern? = .ok found)
    (hanswer : c.answer o = .ok (c.method.tell found)) :
    Reports o c (.finished c.method.direction p.kind c.haystackLength p.length (c.start o)
      o.tolerance? found)
  | rejected {e : SearchError} (hanswer : c.answer o = .error e) :
    Reports o c (.rejected c.method.direction c.kind? e.errorClass)

/-! ### One call -/

variable (o : Options) (c : Call)

/-- Whatever is asked for, it is a search that answers. -/
theorem answer_eq : c.answer o
    = (o.search c.method.direction c.equal c.haystack? c.pattern?).map c.method.tell := by
  unfold answer
  cases c.method with
  | first => rfl
  | last => rfl
  | contains =>
    -- that there is a position is told of the position that was found
    change ((o.search .forward c.equal c.haystack? c.pattern?).map Option.isSome).map .presence
      = (o.search .forward c.equal c.haystack? c.pattern?).map (Method.tell .contains)
    cases o.search .forward c.equal c.haystack? c.pattern? <;> rfl

/-- A call gives its answer, and adds the event of the search to the log. -/
theorem logged_run (log : List Event) : (c.logged o).run log
    = (c.answer o, log ++ (Event.ofAnswer? o c.method.direction c.haystack? c.pattern?
        (o.search c.method.direction c.equal c.haystack? c.pattern?)).toList) := by
  unfold logged answer
  cases c.method with
  | first => rfl
  | last => rfl
  | contains => rfl

/-- **Nothing is answered without a pattern.** -/
theorem exists_pattern_of_search_ok {ε : Type} {d : Direction} {equal : ε → ε → Bool}
    {h? p? : Option (TypedArray ε)} {found : Option Nat}
    (h : o.search d equal h? p? = .ok found) : ∃ p, p? = some p := by
  cases p? with
  | none =>
    -- the missing pattern is the first thing that is looked for
    have hrefused : o.search d equal h? none = .error .nullPattern := by
      cases d <;> rfl
    rw [hrefused] at h
    cases h
  | some p => exact ⟨p, rfl⟩

/-- The length that an event has for the haystack is the one that a call has. -/
theorem haystackLength_eq : c.haystackLength = (c.haystack?.map TypedArray.length).getD 0 := by
  unfold haystackLength
  cases c.haystack? <;> rfl

/-- The kind that a refusal has is that of the pattern, or else of the haystack. -/
theorem kind?_eq : c.kind? = (c.pattern?.or c.haystack?).map TypedArray.kind := by
  unfold kind?
  cases c.pattern? with
  | some p => rfl
  | none => cases c.haystack? <;> rfl

/-- The start bound of an event is the one that the search goes by. -/
theorem start_eq : c.start o = o.startFor c.method.direction := by
  unfold start Options.startFor Options.forwardStart Options.backwardStart
  cases o.start? with
  | some i => cases c.method.direction <;> rfl
  | none => cases c.method.direction <;> rfl

/-- **A call leaves one event, which reports it.** -/
theorem exists_reports : ∃ e, Reports o c e
    ∧ Event.ofAnswer? o c.method.direction c.haystack? c.pattern?
        (o.search c.method.direction c.equal c.haystack? c.pattern?) = some e := by
  cases hsearch : o.search c.method.direction c.equal c.haystack? c.pattern? with
  | error e =>
    refine ⟨_, .rejected (e := e) ?_, ?_⟩
    · rw [answer_eq, hsearch]
      rfl
    · rw [kind?_eq]
      rfl
  | ok found =>
    -- what was answered has a pattern, of which the event tells kind and length
    obtain ⟨p, hpattern⟩ := exists_pattern_of_search_ok o hsearch
    refine ⟨_, .finished hpattern hsearch ?_, ?_⟩
    · rw [answer_eq, hsearch]
      rfl
    · rw [haystackLength_eq, start_eq, Event.ofAnswer?, hpattern]
      rfl

/-! ### All calls -/

/-- The first of several calls is answered first, and leaves the others its log. -/
theorem run_cons (cs : List Call) (log : List Event) : (run o (c :: cs)).run log
    = Prod.map (((c.logged o).run log).1 :: ·) id ((run o cs).run ((c.logged o).run log).2) :=
  rfl

/-- **The log is faithful.** After any calls, the log has grown by one event for each of them, in their
order, and each event reports its call; and the answers are the same as without a log. The induction is
on the calls, over whatever the log holds already. -/
theorem log_reports_calls (cs : List Call) (log : List Event) :
    ∃ events, (run o cs).run log = (cs.map (answer o), log ++ events)
      ∧ List.Forall₂ (Reports o) cs events := by
  induction cs generalizing log with
  | nil =>
    refine ⟨[], ?_, .nil⟩
    rw [List.append_nil]
    rfl
  | cons c cs ih =>
    obtain ⟨e, hreports, hevent⟩ := c.exists_reports o
    -- the first call leaves its event, and the others go on from there
    have hfirst : (c.logged o).run log = (c.answer o, log ++ [e]) := by
      rw [logged_run, hevent]
      rfl
    obtain ⟨events, hrun, hevents⟩ := ih (log ++ [e])
    refine ⟨e :: events, ?_, .cons hreports hevents⟩
    calc (run o (c :: cs)).run log
        = Prod.map (c.answer o :: ·) id ((run o cs).run (log ++ [e])) := by rw [run_cons, hfirst]
      _ = (c.answer o :: cs.map (answer o), log ++ [e] ++ events) := by rw [hrun]; rfl
      _ = ((c :: cs).map (answer o), log ++ e :: events) := by
        rw [List.map_cons, List.append_assoc, List.singleton_append]

end Call

end Haystack
