import Haystack.Proofs.Search.Dispatch
import Haystack.Proofs.Value.Element
import Haystack.Value.TextRule

/-!
# Searching is comparing sub-arrays

A search walks through the haystack with the pattern in hand, and deep equality compares two whole
arrays; neither calls the other. On the kinds that compare exactly the two are one notion: the pattern
is found at `i` when the part of the haystack that begins there, and is as long as the pattern, is
deeply equal to the pattern.

* `TypedArray.slice` cuts a part out of an array, and `ElementArray.EqualParts` are the positions at
  which the part is equal to the pattern.
* `matchesAt_iff_deepEqArray_slice` — where the pattern fits, matching item by item is deep equality of
  the part.
* `Options.search_agrees_with_deepEq` — the plain search answers with the first or the last equal part,
  and with nothing exactly if there is none. Arrays of one length are equal if one is found in the
  other.

The haystack is on the left of every comparison, on both sides of the statements: nothing is assumed of
the equality of opaque values, which need not be symmetric.

A backward search without a start bound begins at the largest index there is. So that this is the end of
the haystack, the haystack must be no longer than indices can say (`TypedArray.Addressable`); arrays in
memory never are.
-/

namespace Haystack

variable {α : Type}

namespace TypedArray

variable {ε : Type}

/-- **The part of an array** that begins at position `i` and has `n` items, or as many as there are. -/
def slice (i n : Nat) : TypedArray ε → TypedArray ε
  | .flat a => .flat ⟨a.kind, (a.items.drop i).take n⟩
  | .reference xs => .reference ((xs.drop i).take n)

/-- The whole array is a part of itself. -/
theorem slice_zero_length (a : TypedArray ε) : a.slice 0 a.length = a := by
  rcases a with ⟨k, xs⟩ | xs
  · simp [slice, length, FlatArray.length]
  · simp [slice, length]

/-- Every position is an index. -/
def Addressable (a : TypedArray ε) : Prop :=
  (a.length : Int) ≤ fromEnd.toInt

end TypedArray

namespace ElementArray

variable (equal : α → α → Bool) (h p : ElementArray α)

/-- **The positions of the parts of `h` that are deeply equal to `p`.** -/
def EqualParts : Set Nat :=
  {i | i + p.length ≤ h.length ∧ Element.deepEqArray equal (h.slice i p.length) p = true}

/-! ### Matching and equality of parts -/

/-- A part is related to a list item by item when the list is so to the items that it lies on. -/
theorem forall₂_take_drop_iff {β : Type} {R : β → β → Prop} {xs ys : List β} {i : Nat}
    (hfit : i + ys.length ≤ xs.length) :
    List.Forall₂ R ((xs.drop i).take ys.length) ys
      ↔ ∀ j x y, xs[i + j]? = some x → ys[j]? = some y → R x y := by
  rw [Element.forall₂_iff_rel_getElem?]
  refine forall_congr' fun j => ?_
  by_cases hj : j < ys.length
  · -- an item of the list lies on one of the part
    have hi : i + j < xs.length := by omega
    have hx : xs[i + j]? = some xs[i + j] := List.getElem?_eq_getElem hi
    have hy : ys[j]? = some ys[j] := List.getElem?_eq_getElem hj
    rw [List.getElem?_take_of_lt hj, List.getElem?_drop, hx, hy, Option.rel_some_some]
    simp
  · -- past the end of the list there is nothing on either side
    have hy : ys[j]? = none := List.getElem?_eq_none (Nat.not_lt.1 hj)
    rw [List.getElem?_take_eq_none (Nat.not_lt.1 hj), hy]
    simp

/-- Items of the kinds that compare exactly agree when they are equal. -/
theorem agrees_flat_iff {k : FlatKind} (hk : (Kind.flat k).isFloating = false) (t : Double)
    (x y : k.Item) : Slot.Agrees equal t (.flat k x) (.flat k y) ↔ x = y := by
  cases k with
  | float64 => cases hk
  | float32 => cases hk
  | int64 | int32 | int16 | int8 | bool | char => simp [Slot.Agrees]

variable {equal h p}

/-- **Where the pattern fits, to match it is to be equal to it**, in flat arrays of a kind whose items agree
when they are equal. It is enough that those in the two arrays do. -/
theorem matchesAt_flat_iff_deepEqArray_slice {k : FlatKind} {xs ys : List k.Item} {t : Double} {i : Nat}
    (hagree : ∀ x ∈ xs, ∀ y ∈ ys, Slot.Agrees equal t (.flat k x) (.flat k y) ↔ x = y)
    (hfit : i + ys.length ≤ xs.length) :
    MatchesAt equal t (.flat ⟨k, xs⟩) (.flat ⟨k, ys⟩) i
      ↔ Element.deepEqArray equal ((TypedArray.flat ⟨k, xs⟩).slice i ys.length) (.flat ⟨k, ys⟩)
        = true := by
  classical
  -- flat arrays are equal if their items are, one by one
  have hequal : Element.deepEqArray equal ((TypedArray.flat ⟨k, xs⟩).slice i ys.length) (.flat ⟨k, ys⟩)
      = true ↔ List.Forall₂ (· = ·) ((xs.drop i).take ys.length) ys := by
    rw [List.forall₂_eq_eq_eq]
    simp [Element.deepEqArray, TypedArray.slice]
  have hdecide : ∀ x y : k.Item, decide (Slot.Agrees equal t (.flat k x) (.flat k y)) = true
      ↔ Slot.Agrees equal t (.flat k x) (.flat k y) := fun _ _ => decide_eq_true_iff
  rw [hequal, forall₂_take_drop_iff hfit,
    matchesAt_iff (TypedArray.slots_flat k xs) (TypedArray.slots_flat k ys) hdecide]
  refine forall_congr' fun j => forall₂_congr fun x y => forall₂_congr fun hx hy => ?_
  rw [hdecide]
  exact hagree x (List.mem_of_getElem? hx) y (List.mem_of_getElem? hy)

/-- **Where the pattern fits, to match it is to be equal to it.** -/
theorem matchesAt_iff_deepEqArray_slice (hkind : h.kind = p.kind) (hdiscrete : p.kind.isFloating = false)
    (t : Double) {i : Nat} (hfit : i + p.length ≤ h.length) :
    h.MatchesAt equal t p i ↔ Element.deepEqArray equal (h.slice i p.length) p = true := by
  rcases TypedArray.cases_of_kind_eq hkind with ⟨k, xs, ys, rfl, rfl⟩ | ⟨xs, ys, rfl, rfl⟩
  · apply matchesAt_flat_iff_deepEqArray_slice _ hfit
    intro x _ y _
    exact agrees_flat_iff equal hdiscrete t x y
  · -- references agree when they are deeply equal, as deep equality of arrays has it
    rw [matchesAt_iff (TypedArray.slots_reference xs) (TypedArray.slots_reference ys)
      fun _ _ => Iff.rfl, ← forall₂_take_drop_iff hfit, ← Element.deepEqList_iff]
    rfl

/-- Of two arrays of one length, the only part that can be equal is the whole. -/
theorem equalParts_nonempty_iff_deepEqArray (hlength : h.length = p.length) :
    (EqualParts equal h p).Nonempty ↔ Element.deepEqArray equal h p = true := by
  have hwhole : h.slice 0 p.length = h := by
    rw [← hlength, TypedArray.slice_zero_length]
  constructor
  · rintro ⟨i, hfit, hequal⟩
    -- a part of that length can begin at the front only
    obtain rfl : i = 0 := by omega
    rw [hwhole] at hequal
    exact hequal
  · intro hequal
    refine ⟨0, by omega, ?_⟩
    rw [hwhole]
    exact hequal

end ElementArray

namespace Options

/-! ### Plain searches -/

section Answer

variable {d : Direction} {starts : Set Nat}

/-- What is answered is one of the starts. -/
theorem IsAnswer.mem {i : Nat} (hf : IsAnswer d starts (some i)) : i ∈ starts := by
  cases d with
  | forward => exact hf.1
  | backward => exact hf.1

/-- If nothing is answered there is no start. -/
theorem IsAnswer.eq_empty (hf : IsAnswer d starts none) : starts = ∅ := by
  cases d with
  | forward => exact hf
  | backward => exact hf

/-- Something is answered exactly if there is a start. -/
theorem IsAnswer.isSome_iff {found : Option Nat} (hf : IsAnswer d starts found) :
    found.isSome = true ↔ starts.Nonempty := by
  cases found with
  | none => simp [hf.eq_empty]
  | some i => exact iff_of_true rfl ⟨i, hf.mem⟩

/-- **There is one answer**, so what is answered is what the specification says. -/
theorem IsAnswer.eq_iff {found : Option Nat} (hf : IsAnswer d starts found) (found' : Option Nat) :
    found = found' ↔ IsAnswer d starts found' := by
  cases d with
  | forward => exact Search.FirstIn.eq_iff hf found'
  | backward => exact Search.LastIn.eq_iff hf found'

end Answer

variable {d : Direction} {h p : ElementArray α}

/-- Without a tolerance, only an end bound can be what a query is refused for. -/
theorem Accepts.of_no_tolerance {o : Options} {k : Kind} (htolerance : o.tolerance? = none)
    (hstop : d = .backward → o.stop? = none) : o.Accepts d k where
  tolerance t ht := by
    rw [htolerance] at ht
    cases ht
  stop := hstop

/-- Options that say nothing are accepted by every kind. -/
theorem accepts_empty (d : Direction) (k : Kind) : empty.Accepts d k :=
  .of_no_tolerance rfl fun _ => rfl

/-- Options that say nothing allow every start at which the pattern fits. -/
theorem allows_empty_iff (hd : d = .backward → h.Addressable) {m i : Nat} :
    empty.Allows d h.length m i ↔ i + m ≤ h.length := by
  cases d with
  | forward =>
    -- the start bound is the front
    have hstart : ((empty.start?.getD 0 : Int64)).toInt = 0 := rfl
    show min (max (empty.start?.getD 0).toInt 0) h.length ≤ i ∧ i + m ≤ h.length ↔ _
    omega
  | backward =>
    -- the limit is the largest index, which is not before the end
    have hend : (h.length : Int) ≤ fromEnd.toInt := hd rfl
    show (i : Int) ≤ fromEnd.toInt ∧ i + m ≤ h.length ↔ _
    omega

/-- A start that is allowed leaves room for the pattern. -/
theorem Allows.le {o : Options} {n m i : Nat} (hallows : o.Allows d n m i) : i + m ≤ n := by
  unfold Allows at hallows
  split at hallows
  · exact hallows.2
  · have hstop := hallows.2
    omega
  · exact hallows.2

/-- **Where to match is to be equal, a search answers with the equal parts** that its options allow. -/
theorem search_equalParts {o : Options} (equal : α → α → Bool) (hkind : h.kind = p.kind)
    (ha : o.Accepts d p.kind)
    (hmatch : ∀ i, i + p.length ≤ h.length → (h.MatchesAt equal o.toleranceOrZero p i
      ↔ Element.deepEqArray equal (h.slice i p.length) p = true)) :
    ∃ found, o.search d (Element.deepEq equal) (some h) (some p) = .ok found
      ∧ IsAnswer d {i | o.Allows d h.length p.length i ∧ i ∈ ElementArray.EqualParts equal h p}
        found := by
  obtain ⟨found, hsearch, hanswer⟩ := o.exists_answer d equal hkind ha
  refine ⟨found, hsearch, hanswer.congr fun i => and_congr_right fun hallows => ?_⟩
  exact (hmatch i hallows.le).trans (and_iff_right hallows.le).symm

/-- Options that say nothing allow all the equal parts. -/
theorem allows_empty_and_equalParts (equal : α → α → Bool) (hd : d = .backward → h.Addressable) :
    {i | empty.Allows d h.length p.length i ∧ i ∈ ElementArray.EqualParts equal h p}
      = ElementArray.EqualParts equal h p := by
  ext i
  rw [Set.mem_ofPred_eq, allows_empty_iff hd]
  exact and_iff_right_of_imp And.left

/-- **The plain search answers with the equal parts.** -/
theorem search_empty (equal : α → α → Bool) (hkind : h.kind = p.kind)
    (hdiscrete : p.kind.isFloating = false) (hd : d = .backward → h.Addressable) :
    ∃ found, empty.search d (Element.deepEq equal) (some h) (some p) = .ok found
      ∧ IsAnswer d (ElementArray.EqualParts equal h p) found := by
  rw [← allows_empty_and_equalParts equal hd]
  apply search_equalParts equal hkind (accepts_empty d p.kind)
  intro i hfit
  exact ElementArray.matchesAt_iff_deepEqArray_slice hkind hdiscrete empty.toleranceOrZero hfit

/-- Presence is that something was found by the forward search. -/
theorem contains_eq_ok_iff {ε : Type} {o : Options} {equal : ε → ε → Bool}
    {h? p? : Option (TypedArray ε)} {found : Option Nat} {b : Bool}
    (hsearch : o.search .forward equal h? p? = .ok found) :
    o.contains equal h? p? = .ok b ↔ found.isSome = b := by
  have hcontains : o.contains equal h? p? = (o.search .forward equal h? p?).map Option.isSome := rfl
  rw [hcontains, hsearch, Except.map, Except.ok.injEq]

/-- **Search and deep equality agree** on every kind that is not floating. Without options, a search
answers with the first part of the haystack that is deeply equal to the pattern, or from the end with the
last one, and with nothing exactly if there is no such part. Two arrays of one length are deeply equal
exactly if the one is found in the other. -/
theorem search_agrees_with_deepEq (equal : α → α → Bool) (h p : ElementArray α)
    (hkind : h.kind = p.kind) (hdiscrete : p.kind.isFloating = false) :
    (∀ d, (d = .backward → h.Addressable) →
        (∀ found, empty.search d (Element.deepEq equal) (some h) (some p) = .ok found
            ↔ IsAnswer d (ElementArray.EqualParts equal h p) found)
          ∧ (h.length = p.length → (Element.deepEqArray equal h p = true
              ↔ ∃ i, empty.search d (Element.deepEq equal) (some h) (some p) = .ok (some i))))
      ∧ (empty.contains (Element.deepEq equal) (some h) (some p) = .ok false
          ↔ ElementArray.EqualParts equal h p = ∅)
      ∧ (empty.contains (Element.deepEq equal) (some h) (some p) = .ok true
          ↔ (ElementArray.EqualParts equal h p).Nonempty) := by
  refine ⟨fun d hd => ?_, ?_⟩
  · obtain ⟨found, hsearch, hanswer⟩ := search_empty equal hkind hdiscrete hd
    rw [hsearch]
    constructor
    · intro found'
      rw [Except.ok.injEq]
      exact hanswer.eq_iff found'
    · intro hlength
      -- an equal part is found exactly if there is one
      rw [← ElementArray.equalParts_nonempty_iff_deepEqArray hlength, ← hanswer.isSome_iff,
        Option.isSome_iff_exists]
      simp only [Except.ok.injEq]
  · obtain ⟨found, hsearch, hanswer⟩ :=
      search_empty (d := .forward) equal hkind hdiscrete fun hd => by cases hd
    rw [contains_eq_ok_iff hsearch, contains_eq_ok_iff hsearch, ← hanswer.isSome_iff,
      ← Set.not_nonempty_iff_eq_empty, ← hanswer.isSome_iff, Bool.not_eq_true]
    exact ⟨Iff.rfl, Iff.rfl⟩

/-- A string, then twice a list that holds a NaN. -/
def repeated : ElementArray String :=
  .reference [.value "a", .array (.flat ⟨.float64, [Binary.nan false]⟩),
    .array (.flat ⟨.float64, [Binary.nan false]⟩)]

/-- Under a rule that is not symmetric, the list with the NaN is found twice in the array, and its last
place is answered from the end; and the array is found in itself. -/
theorem search_agrees_with_deepEq_nan :
    repeated.Addressable
      ∧ IsGreatest (ElementArray.EqualParts ScalarRule.continuing.equal repeated
          (.reference [.array (.flat ⟨.float64, [Binary.nan false]⟩)])) 2
      ∧ Element.deepEqArray ScalarRule.continuing.equal repeated repeated = true := by
  have haddressable : repeated.Addressable := by
    show (3 : Int) ≤ fromEnd.toInt
    decide
  refine ⟨haddressable, ?_, ?_⟩
  · refine (((search_agrees_with_deepEq ScalarRule.continuing.equal repeated
      (.reference [.array (.flat ⟨.float64, [Binary.nan false]⟩)]) rfl rfl).1 .backward
      fun _ => haddressable).1 (some 2)).1 ?_
    decide +kernel
  · refine (((search_agrees_with_deepEq ScalarRule.continuing.equal repeated repeated rfl rfl).1
      .forward fun hd => by cases hd).2 rfl).2 ⟨0, ?_⟩
    decide +kernel

end Options

end Haystack
