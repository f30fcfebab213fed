import Haystack.Proofs.Search.Scan
import Haystack.Proofs.Search.Tolerance
import Haystack.Proofs.Value.Slot
import Haystack.Search.Event
import Haystack.Value.Element

/-!
# A search meets its specification on every kind

What a search in arrays has to answer can be said without looking at how kinds are dispatched: of the
starts that the options allow, take those at which every aligned pair of items agrees, and answer with
the first or the last of them. This file says so, and proves it of the entry points.

* `Slot.Agrees` — when two items of one kind agree: by equality for the discrete kinds, deeply for
  references, within the tolerance for the floating-point kinds.
* `Options.Allows` — the starts that the options allow in a direction.
* `Options.Accepts` — the queries that are not refused, apart from those whose kinds differ.
* `Options.search_meets_specification` — for arrays of one kind, a query is answered exactly if it is
  accepted, and the answer is the first or the last start that is allowed and matches.

The proof goes from the outside in. A query that is accepted passes its checks (`locate_of_accepts`),
its arrays are scanned as two lists of items (`isAnswer_scanArrays`), the scan of two lists answers with
the matches that are allowed (`isAnswer_scan`), and the rule of a kind is agreement of slots
(`agree_windowOf_iff`). Of the scans only their specifications are used.
-/

namespace Haystack

variable {α : Type}

/-! ### When items agree -/

/-- **Whether an item of the haystack and an item of the pattern agree.** Numbers of 64 bits have to be
within the tolerance `t`, and numbers of 32 bits within its ceiling. References have to be deeply equal
under the equality of opaque values, and items of any other kind equal. -/
def Slot.Agrees (equal : α → α → Bool) (t : Double) : Slot (Element α) → Slot (Element α) → Prop
  | .flat .float64 x, .flat .float64 y => Binary.Within t x y
  | .flat .float32 x, .flat .float32 y =>
    ∃ u : Single, Binary.IsCeiling t u ∧ Binary.Within u x y
  | .reference x, .reference y => Element.deepEq equal x y = true
  | x, y => x = y

/-- **The rule of a kind is agreement of slots.** -/
theorem FlatKind.agree_windowOf_iff (equal : α → α → Bool) (k : FlatKind) (t : Tolerance .double)
    (x y : k.Item) :
    k.searchRule.agree (k.windowOf t) x y = true
      ↔ Slot.Agrees equal t.width (.flat k x) (.flat k y) := by
  cases k with
  -- the window of a kind is the tolerance or its ceiling, and the other kinds compare by equality
  | float64 => exact t.admits_iff x y
  | float32 => exact t.narrow_admits_iff x y
  | int64 | int32 | int16 | int8 | bool | char =>
    simp [FlatKind.searchRule, SearchRule.discrete, Slot.Agrees]

/-- **The pattern matches at `i`**: every item of it agrees with the item that it lies on. -/
def ElementArray.MatchesAt (equal : α → α → Bool) (t : Double) (h p : ElementArray α) (i : Nat) :
    Prop :=
  ∀ j x y, h.slots[i + j]? = some x → p.slots[j]? = some y → Slot.Agrees equal t x y

/-- Matching looks at the items, one by one. -/
theorem ElementArray.matchesAt_iff {β : Type} {equal : α → α → Bool} {t : Double} {xs ys : List β}
    {h p : ElementArray α} {slot : β → Slot (Element α)} {agree : β → β → Bool}
    (hh : h.slots = xs.map slot) (hp : p.slots = ys.map slot)
    (hagree : ∀ x y, agree x y = true ↔ Slot.Agrees equal t (slot x) (slot y)) (i : Nat) :
    MatchesAt equal t h p i
      ↔ ∀ j x y, xs[i + j]? = some x → ys[j]? = some y → agree x y = true := by
  rw [MatchesAt, hh, hp]
  refine forall_congr' fun j => ?_
  rw [List.getElem?_map, List.getElem?_map]
  constructor
  · intro hmatch x y hx hy
    rw [hagree]
    -- a slot of the mapped list is the slot of an item
    refine hmatch _ _ ?_ ?_
    · rw [hx, Option.map_some]
    · rw [hy, Option.map_some]
  · intro hitems x y hx hy
    obtain ⟨x', hx', rfl⟩ := Option.map_eq_some_iff.1 hx
    obtain ⟨y', hy', rfl⟩ := Option.map_eq_some_iff.1 hy
    rw [← hagree]
    exact hitems x' y' hx' hy'

namespace Options

variable {β : Type} (o : Options) (d : Direction)

/-! ### Where a search may look -/

/-- **The starts that the options allow** for a pattern of `m` items in a haystack of `n` items. -/
def Allows (n m i : Nat) : Prop :=
  match d, o.stop? with
  | .forward, none => min (max (o.start?.getD 0).toInt 0) n ≤ i ∧ i + m ≤ n
  | .forward, some stop =>
    max (o.start?.getD 0).toInt 0 ≤ i ∧ (i + m : Int) ≤ min (max stop.toInt 0) n
  | .backward, _ => (i : Int) ≤ (o.start?.getD fromEnd).toInt ∧ i + m ≤ n

/-- **The answer in a direction**: the first of the starts forwards, the last of them backwards. -/
def IsAnswer (starts : Set Nat) (found : Option Nat) : Prop :=
  match d with
  | .forward => Search.FirstIn starts found
  | .backward => Search.LastIn starts found

/-- An answer depends on what the starts are, not on how they are described. -/
theorem IsAnswer.congr {d : Direction} {starts starts' : Set Nat} {found : Option Nat}
    (h : ∀ i, i ∈ starts ↔ i ∈ starts') (ha : IsAnswer d starts found) :
    IsAnswer d starts' found := by
  rw [← Set.ext h]
  exact ha

/-- **The scan answers with the occurrences that are allowed**, whatever the agreement of items. An
occurrence is a match that fits, and in each of the three scans the fit is part of what is allowed. -/
theorem isAnswer_scan (agree : β → β → Bool) (xs ys : List β) :
    IsAnswer d {i | o.Allows d xs.length ys.length i
        ∧ ∀ j x y, xs[i + j]? = some x → ys[j]? = some y → agree x y = true}
      (o.scan d agree xs ys) := by
  cases d with
  | backward =>
    have hscan := Scan.lastIn_backward agree xs ys o.backwardStart.toInt
    refine IsAnswer.congr (fun i => ?_) hscan
    exact and_assoc.symm
  | forward =>
    rw [scan]
    cases hstop : o.stop? with
    | none =>
      have hscan := Scan.firstIn_forward agree xs ys o.forwardStart.toInt
      refine IsAnswer.congr (fun i => ?_) hscan
      show _ ∧ _ ∧ _ ↔ _ ∧ _
      rw [← and_assoc]
      refine and_congr_left fun _ => ?_
      -- a bound below zero is the front, on the integers as well as cut off to naturals
      simp only [Allows, hstop]
      show _ ↔ min (max o.forwardStart.toInt 0) _ ≤ _ ∧ _
      omega
    | some stop =>
      have hscan := Scan.firstIn_forwardWithin agree xs ys o.forwardStart.toInt stop.toInt
      refine IsAnswer.congr (fun i => ?_) hscan
      show _ ∧ _ ∧ _ ∧ _ ↔ _ ∧ _
      rw [← and_assoc, ← and_assoc]
      refine and_congr_left fun _ => ?_
      -- what ends before the brought-in stop fits into the haystack
      simp only [Allows, hstop]
      show _ ↔ max o.forwardStart.toInt 0 ≤ _ ∧ _
      omega

/-! ### Which queries are refused -/

/-- **The queries that are not refused**, if the arrays are of one kind `k`: a tolerance is a number
that is not below zero and is given for a floating-point kind only, and only a forward search has an
end bound. -/
structure Accepts (k : Kind) : Prop where
  tolerance : ∀ t, o.tolerance? = some t →
    t.isNaN = false ∧ 0 ≤ t.toEReal ∧ k.isFloating = true
  stop : d = .backward → o.stop? = none

/-- The tolerance that a query goes by. -/
def toleranceOrZero : Double :=
  o.tolerance?.getD (Binary.zero false)

/-- The window is the tolerance, and there is none if the tolerance cannot be a width. -/
theorem window_eq_ok_iff {t : Tolerance .double} :
    o.window = .ok t ↔ t.width = o.toleranceOrZero := by
  rw [window, toleranceOrZero]
  cases o.tolerance? with
  | none =>
    constructor
    · intro h
      cases h
      rfl
    · intro h
      -- without a tolerance the window is the empty one, and a width makes one window only
      have hzero : t = .zero .double := Tolerance.eq_of_width_eq h
      rw [hzero]
  | some x => exact Tolerance.ofWidth?_eq_ok_iff

/-- A query that is accepted has a window. -/
theorem Accepts.exists_window {k : Kind} (ha : o.Accepts d k) :
    ∃ t, o.window = .ok t ∧ t.width = o.toleranceOrZero := by
  -- the tolerance that is accepted can be a width, and the zero that stands for none can
  have hwidth : ∃ t : Tolerance .double, t.width = o.toleranceOrZero := by
    rw [toleranceOrZero]
    cases htol : o.tolerance? with
    | none => exact ⟨.zero .double, rfl⟩
    | some x =>
      obtain ⟨hn, h0, -⟩ := ha.tolerance x htol
      exact Tolerance.exists_width_iff.2 ⟨hn, h0⟩
  obtain ⟨t, ht⟩ := hwidth
  exact ⟨t, (o.window_eq_ok_iff).2 ht, ht⟩

/-- An accepted query is answered by the scan of the arrays. -/
theorem locate_of_accepts {ε : Type} (equal : ε → ε → Bool) (h : TypedArray ε) {p : TypedArray ε}
    (ha : o.Accepts d p.kind) :
    ∃ t, t.width = o.toleranceOrZero
      ∧ o.locate d equal (some h) p = o.scanArrays d equal t h p := by
  obtain ⟨t, hwindow, hwidth⟩ := ha.exists_window
  -- neither of the checks behind that of the window refuses the query
  have hkind : ¬(o.tolerance?.isSome ∧ ¬p.kind.supportsTolerance) := by
    rintro ⟨hsome, hnot⟩
    obtain ⟨x, hx⟩ := Option.isSome_iff_exists.1 hsome
    exact hnot (ha.tolerance x hx).2.2
  have hstop : ¬(d = .backward ∧ o.stop?.isSome) := by
    rintro ⟨hd, hsome⟩
    rw [ha.stop hd] at hsome
    cases hsome
  refine ⟨t, hwidth, ?_⟩
  rw [locate, hwindow]
  simp only [hkind, hstop, if_false]

/-- A query that is not accepted is refused. -/
theorem exists_error_of_not_accepts {ε : Type} {equal : ε → ε → Bool} {h? : Option (TypedArray ε)}
    {p : TypedArray ε} (hna : ¬o.Accepts d p.kind) : ∃ e, o.locate d equal h? p = .error e := by
  rw [locate]
  cases hwindow : o.window with
  | error e => exact ⟨e, rfl⟩
  | ok t =>
    -- the window is fine, so one of the other two checks has to fail
    simp only
    split
    · exact ⟨_, rfl⟩
    · next hkind =>
      split
      · exact ⟨_, rfl⟩
      · next hstop =>
        refine absurd ⟨fun x hx => ?_, fun hd => ?_⟩ hna
        · -- a width is a number that is not below zero
          have hwidth := o.window_eq_ok_iff.1 hwindow
          rw [toleranceOrZero, hx, Option.getD_some] at hwidth
          obtain ⟨hn, h0⟩ := Tolerance.exists_width_iff.1 ⟨t, hwidth⟩
          refine ⟨hn, h0, ?_⟩
          by_contra hnot
          exact hkind ⟨by rw [hx]; rfl, hnot⟩
        · by_contra hnot
          exact hstop ⟨hd, Option.isSome_iff_ne_none.2 hnot⟩

/-! ### The answers -/

/-- Flat arrays of one kind are scanned under the rule of that kind: the cast between their item types is the
identity. -/
theorem scanArrays_flat {ε : Type} (equal : ε → ε → Bool) (t : Tolerance .double) {k : FlatKind}
    (xs ys : List k.Item) :
    o.scanArrays d equal t (.flat ⟨k, xs⟩) (.flat ⟨k, ys⟩)
      = .ok (o.scan d (k.searchRule.agree (k.windowOf t)) xs ys) := by
  rw [scanArrays, dif_pos rfl]

/-- **The scan of two arrays of one kind** answers with the matches that are allowed. -/
theorem isAnswer_scanArrays (equal : α → α → Bool) (t : Tolerance .double) {h p : ElementArray α}
    (hkind : h.kind = p.kind) :
    ∃ found, o.scanArrays d (Element.deepEq equal) t h p = .ok found
      ∧ IsAnswer d {i | o.Allows d h.length p.length i ∧ h.MatchesAt equal t.width p i} found := by
  rcases TypedArray.cases_of_kind_eq hkind with ⟨k, xs, ys, rfl, rfl⟩ | ⟨xs, ys, rfl, rfl⟩
  · refine ⟨_, o.scanArrays_flat d (Element.deepEq equal) t xs ys, ?_⟩
    -- a flat array is scanned under the rule of its kind
    have hmatch := ElementArray.matchesAt_iff (TypedArray.slots_flat k xs)
      (TypedArray.slots_flat k ys) (k.agree_windowOf_iff equal t)
    simp only [hmatch]
    exact o.isAnswer_scan d _ xs ys
  · refine ⟨o.scan d (Element.deepEq equal) xs ys, rfl, ?_⟩
    -- references are scanned under deep equality, which is their agreement
    have hmatch : ∀ i, ElementArray.MatchesAt equal t.width (.reference xs) (.reference ys) i ↔ _ :=
      ElementArray.matchesAt_iff (TypedArray.slots_reference xs) (TypedArray.slots_reference ys)
        fun _ _ => Iff.rfl
    simp only [hmatch]
    exact o.isAnswer_scan d _ xs ys

/-- The search of a caller in a direction. -/
def search {ε : Type} (equal : ε → ε → Bool) (haystack? pattern? : Option (TypedArray ε)) :
    Except SearchError (Option Nat) :=
  match d with
  | .forward => o.firstIndexOf equal haystack? pattern?
  | .backward => o.lastIndexOf equal haystack? pattern?

/-- The search of a caller in a direction, recorded. -/
def loggedSearch {ε : Type} (equal : ε → ε → Bool) (haystack? pattern? : Option (TypedArray ε)) :
    Logged (Except SearchError (Option Nat)) :=
  match d with
  | .forward => Logged.firstIndexOf o equal haystack? pattern?
  | .backward => Logged.lastIndexOf o equal haystack? pattern?

/-- A query with a pattern goes to the search of arrays. -/
theorem search_some {ε : Type} (equal : ε → ε → Bool) (h? : Option (TypedArray ε))
    (p : TypedArray ε) : o.search d equal h? (some p) = o.locate d equal h? p := by
  cases d with
  | forward => rfl
  | backward => rfl

/-- Recording a search does not change its answer. -/
theorem loggedSearch_run {ε : Type} (equal : ε → ε → Bool) (h? p? : Option (TypedArray ε))
    (log : List Event) : ((o.loggedSearch d equal h? p?).run log).1 = o.search d equal h? p? := by
  cases d with
  | forward => cases p? <;> rfl
  | backward => cases p? <;> rfl

/-- An accepted query is answered, with the matches that are allowed. -/
theorem exists_answer (equal : α → α → Bool) {h p : ElementArray α} (hkind : h.kind = p.kind)
    (ha : o.Accepts d p.kind) :
    ∃ found, o.search d (Element.deepEq equal) (some h) (some p) = .ok found
      ∧ IsAnswer d {i | o.Allows d h.length p.length i ∧ h.MatchesAt equal o.toleranceOrZero p i}
          found := by
  obtain ⟨t, hwidth, hlocate⟩ := o.locate_of_accepts d (Element.deepEq equal) h ha
  obtain ⟨found, hscan, hanswer⟩ := o.isAnswer_scanArrays d equal t hkind
  refine ⟨found, ?_, ?_⟩
  · rw [search_some, hlocate, hscan]
  · rw [← hwidth]
    exact hanswer

/-- **A search meets its specification on every kind.** -/
theorem search_meets_specification (equal : α → α → Bool) (h p : ElementArray α)
    (hkind : h.kind = p.kind) :
    (¬o.Accepts d p.kind →
      ∃ e, o.search d (Element.deepEq equal) (some h) (some p) = .error e) ∧
    (o.Accepts d p.kind → ∃ found,
      o.search d (Element.deepEq equal) (some h) (some p) = .ok found ∧
      (∀ log, ((o.loggedSearch d (Element.deepEq equal) (some h) (some p)).run log).1
        = .ok found) ∧
      IsAnswer d {i | o.Allows d h.length p.length i ∧ h.MatchesAt equal o.toleranceOrZero p i}
        found) := by
  constructor
  · intro hna
    rw [search_some]
    exact o.exists_error_of_not_accepts d hna
  · intro ha
    obtain ⟨found, hsearch, hanswer⟩ := o.exists_answer d equal hkind ha
    refine ⟨found, hsearch, fun log => ?_, hanswer⟩
    rw [loggedSearch_run, hsearch]

/-- The options that ask for numbers within `0.1`, which is no number of 32 bits. -/
def withinTenth : Options :=
  empty.withTolerance (Binary.ofBits .double 0x3FB999999999999A)

/-- An array of numbers of 32 bits, given by their bit patterns. -/
def singles (bits : List Nat) : ElementArray Nat :=
  .flat ⟨.float32, bits.map (Binary.ofBits .single)⟩

/-- Searching `[2, 1.0625]` from the end for `[1]` finds the second number, which is close enough. -/
theorem search_meets_specification_withinTenth :
    withinTenth.Accepts .backward (singles [0x3F800000]).kind ∧
    IsAnswer .backward {i | withinTenth.Allows .backward 2 1 i
      ∧ (singles [0x40000000, 0x3F880000]).MatchesAt (· == ·) withinTenth.toleranceOrZero
          (singles [0x3F800000]) i} (some 1) := by
  have ha : withinTenth.Accepts .backward (singles [0x3F800000]).kind := by
    refine ⟨fun t ht => ?_, fun _ => rfl⟩
    obtain rfl := Option.some.inj ht
    refine ⟨by decide +kernel, ?_, rfl⟩
    rw [Binary.toEReal_of_positive (by decide +kernel)]
    exact Precision.extent_nonneg _ _
  -- the search is run once, and its answer is the one that the specification speaks of
  have hfound : withinTenth.search .backward (Element.deepEq (· == ·))
      (some (singles [0x40000000, 0x3F880000])) (some (singles [0x3F800000]))
        = .ok (some 1) := by
    decide +kernel
  obtain ⟨found, hsearch, -, hanswer⟩ :=
    (search_meets_specification withinTenth .backward (· == ·)
      (singles [0x40000000, 0x3F880000]) (singles [0x3F800000]) rfl).2 ha
  rw [hfound] at hsearch
  cases hsearch
  exact ⟨ha, hanswer⟩

end Options

end Haystack
