import Haystack.Proofs.Value.Element
import Haystack.Value.TextRule

/-!
# Deep equality is agreement at every path

Deep equality is computed by one descent through two trees at once. This file says what it decides
without descending: a **path** is a list of positions that leads through nested lists of references to
one element (`Element.at?`), and two trees are deeply equal when they agree at every path.

Agreement at a path (`AgreeAtTop`) looks at the two elements found there and at nothing below them.
Nulls agree, flat arrays of one kind agree when they are identical item by item, and arrays of
references as soon as they are equally long, because their items have paths of their own. Only
two opaque values ask the rule, so what the rule says cannot make null, a value and an array the same,
nor arrays of two kinds.

* `deepEq_iff_forall_path` is the equivalence, proven along the path in one direction and along the
  tree in the other.
* `ScalarRule.deepEq_iff_agree_everywhere` adds what follows for elements of different form.
-/

namespace Haystack

variable {α : Type}

/-! ### Identical items -/

/-- A number is determined by its bit pattern. -/
theorem Binary.toBits_injective {p : Precision} :
    Function.Injective (toBits : Binary p → Nat) :=
  Function.LeftInverse.injective ofBits_toBits

/-- **Identical items**: floating-point numbers have the same bit pattern, other items are equal. -/
def FlatKind.Identical : (k : FlatKind) → k.Item → k.Item → Prop
  | float64, x, y => x.toBits = y.toBits
  | float32, x, y => x.toBits = y.toBits
  | int64, x, y | int32, x, y | int16, x, y | int8, x, y => x = y
  | bool, x, y => x = y
  | char, x, y => x = y

/-- To be identical is to be equal, as numbers are by their bits. -/
theorem FlatKind.identical_iff {k : FlatKind} {x y : k.Item} : k.Identical x y ↔ x = y := by
  cases k with
  | float64 => exact Binary.toBits_injective.eq_iff
  | float32 => exact Binary.toBits_injective.eq_iff
  | int64 | int32 | int16 | int8 | bool | char => exact Iff.rfl

/-- So it is with lists of items. -/
theorem FlatKind.forall₂_identical_iff {k : FlatKind} {xs ys : List k.Item} :
    List.Forall₂ k.Identical xs ys ↔ xs = ys := by
  have hrel : k.Identical = (· = ·) := funext₂ fun _ _ => propext identical_iff
  rw [hrel, List.forall₂_eq_eq_eq]

namespace Element

/-! ### Paths -/

/-- **The element at a path**: each position of the path picks a reference of a nested array. There is
none where the path leaves the tree, or leads into something that is no array of references. -/
def at? : Element α → List Nat → Option (Element α)
  | x, [] => some x
  | .array (.reference xs), i :: path => xs[i]?.bind (at? · path)
  | _, _ :: _ => none

/-- The empty path leads to the whole. -/
@[simp] theorem at?_nil (x : Element α) : x.at? [] = some x := by
  rw [at?]

/-- A longer path goes on in the reference at its first position. -/
theorem at?_reference_cons (xs : List (Element α)) (i : Nat) (path : List Nat) :
    (array (.reference xs)).at? (i :: path) = xs[i]?.bind (at? · path) := by
  rw [at?]

/-- From a null no path leads anywhere. -/
@[simp] theorem at?_null_cons (i : Nat) (path : List Nat) :
    (null : Element α).at? (i :: path) = none := by
  simp [at?]

/-- Nor does one from a value. -/
@[simp] theorem at?_value_cons (v : α) (i : Nat) (path : List Nat) :
    (value v).at? (i :: path) = none := by
  simp [at?]

/-- Nor does one from a flat array. -/
@[simp] theorem at?_flat_cons (a : FlatArray) (i : Nat) (path : List Nat) :
    (array (.flat a) : Element α).at? (i :: path) = none := by
  simp [at?]

/-! ### Agreement -/

/-- **Two elements agree at their top**, that is, apart from the references in them. -/
inductive AgreeAtTop (equal : α → α → Bool) : Element α → Element α → Prop
  | null : AgreeAtTop equal null null
  | value {u v : α} (h : equal u v = true) : AgreeAtTop equal (value u) (value v)
  | flat {k : FlatKind} {xs ys : List k.Item} (h : List.Forall₂ k.Identical xs ys) :
    AgreeAtTop equal (array (.flat ⟨k, xs⟩)) (array (.flat ⟨k, ys⟩))
  | reference {xs ys : List (Element α)} (h : xs.length = ys.length) :
    AgreeAtTop equal (array (.reference xs)) (array (.reference ys))

/-- **Two trees agree at a path** if it leads out of both, or to elements that agree at their top. -/
def AgreeAt (equal : α → α → Bool) (x y : Element α) (path : List Nat) : Prop :=
  Option.Rel (AgreeAtTop equal) (x.at? path) (y.at? path)

variable {equal : α → α → Bool}

/-- At the empty path it is the two tops that have to agree. -/
theorem agreeAt_nil_iff {x y : Element α} : AgreeAt equal x y [] ↔ AgreeAtTop equal x y := by
  rw [AgreeAt, at?_nil, at?_nil, Option.rel_some_some]

/-- Equal trees agree at their top. -/
theorem agreeAtTop_of_deepEq {x y : Element α} (h : deepEq equal x y = true) :
    AgreeAtTop equal x y := by
  rcases x with _ | u | (⟨k, xs⟩ | xs)
  · rw [null_deepEq_iff.1 h]
    exact .null
  · obtain ⟨v, rfl, huv⟩ := value_deepEq_iff.1 h
    exact .value huv
  · rw [flat_deepEq_iff.1 h]
    exact .flat (FlatKind.forall₂_identical_iff.2 rfl)
  · obtain ⟨ys, rfl, hxs⟩ := reference_deepEq_iff.1 h
    exact .reference hxs.length_eq

/-- Equal trees agree at every path, as their references do. -/
theorem agreeAt_of_deepEq {x y : Element α} (h : deepEq equal x y = true) (path : List Nat) :
    AgreeAt equal x y path := by
  induction path generalizing x y with
  | nil => exact agreeAt_nil_iff.2 (agreeAtTop_of_deepEq h)
  | cons i path ih =>
    rw [AgreeAt]
    rcases x with _ | u | (a | xs)
    · -- out of a null, a value or a flat array the path leads on neither side
      rw [null_deepEq_iff.1 h, at?_null_cons]
      exact .none
    · obtain ⟨v, rfl, -⟩ := value_deepEq_iff.1 h
      rw [at?_value_cons, at?_value_cons]
      exact .none
    · rw [flat_deepEq_iff.1 h, at?_flat_cons]
      exact .none
    · obtain ⟨ys, rfl, hxs⟩ := reference_deepEq_iff.1 h
      rw [at?_reference_cons, at?_reference_cons]
      -- either there is no reference at `i` on both sides, or there are two equal ones
      have hitems := forall₂_iff_rel_getElem?.1 hxs i
      generalize xs[i]? = x?, ys[i]? = y? at hitems
      cases hitems with
      | none => exact .none
      | some hxy => exact ih hxy

/-- What agreement at all paths says of two arrays of references: it holds of their items, two by
two. -/
theorem agreeAt_of_getElem? {xs ys : List (Element α)} {x y : Element α} {i : Nat}
    (h : ∀ path, AgreeAt equal (array (.reference xs)) (array (.reference ys)) path)
    (hx : xs[i]? = some x) (hy : ys[i]? = some y) (path : List Nat) : AgreeAt equal x y path := by
  have hi := h (i :: path)
  rw [AgreeAt, at?_reference_cons, at?_reference_cons, hx, hy] at hi
  exact hi

/-- **Deep equality is agreement at every path.** -/
theorem deepEq_iff_forall_path {x y : Element α} :
    deepEq equal x y = true ↔ ∀ path, AgreeAt equal x y path := by
  refine ⟨agreeAt_of_deepEq, fun h => ?_⟩
  induction x generalizing y with
  | null =>
    cases agreeAt_nil_iff.1 (h [])
    exact null_deepEq_iff.2 rfl
  | value u =>
    cases agreeAt_nil_iff.1 (h []) with
    | value huv => exact value_deepEq_iff.2 ⟨_, rfl, huv⟩
  | flat a =>
    cases agreeAt_nil_iff.1 (h []) with
    | flat hitems =>
      rw [FlatKind.forall₂_identical_iff.1 hitems]
      exact flat_deepEq_iff.2 rfl
  | reference xs ih =>
    cases agreeAt_nil_iff.1 (h []) with
    | @reference _ ys hlength =>
      refine reference_deepEq_iff.2 ⟨ys, rfl, forall₂_iff_rel_getElem?.2 fun i => ?_⟩
      -- the lists are equally long, so there is an item at `i` on both sides or on neither
      by_cases hi : i < xs.length
      · have hx := List.getElem?_eq_getElem hi
        have hy := List.getElem?_eq_getElem (hlength ▸ hi)
        rw [hx, hy]
        exact .some (ih _ (List.getElem_mem hi) (agreeAt_of_getElem? h hx hy))
      · rw [List.getElem?_eq_none (Nat.not_lt.1 hi), List.getElem?_eq_none (hlength ▸ Nat.not_lt.1 hi)]
        exact .none

/-! ### Elements of different form -/

/-- What an element is, apart from what it holds: an array is known by its kind. -/
inductive Form where
  | null
  | value
  | array (kind : Kind)

/-- The form of an element. -/
def form : Element α → Form
  | null => .null
  | value _ => .value
  | array a => .array a.kind

/-- Elements that agree at their top are of one form. -/
theorem AgreeAtTop.form_eq {x y : Element α} (h : AgreeAtTop equal x y) : x.form = y.form := by
  cases h <;> rfl

/-- Trees with elements of different form at some path are different. -/
theorem deepEq_eq_false_of_form_ne {x y u v : Element α} {path : List Nat}
    (hx : x.at? path = some u) (hy : y.at? path = some v) (hform : u.form ≠ v.form) :
    deepEq equal x y = false := by
  refine Bool.eq_false_iff.2 fun h => hform ?_
  have hagree := agreeAt_of_deepEq h path
  rw [AgreeAt, hx, hy, Option.rel_some_some] at hagree
  exact hagree.form_eq

end Element

/-- The empty array of a kind. -/
def TypedArray.emptyOf {ε : Type} : Kind → TypedArray ε
  | .flat k => .flat ⟨k, []⟩
  | .reference => .reference []

/-- The empty array of a kind is of that kind. -/
theorem TypedArray.kind_emptyOf {ε : Type} (k : Kind) : (emptyOf k : TypedArray ε).kind = k := by
  cases k <;> rfl

namespace ScalarRule

/-- **Deep equality is agreement at every path**, whatever the rule. Hence null, an opaque value and the
empty arrays of two kinds are told apart from each other at every depth: two trees in which two of them
stand at the same path are different. -/
theorem deepEq_iff_agree_everywhere (r : ScalarRule α) (x y : Element α) :
    (r.deepEq x y = true ↔ ∀ path, Element.AgreeAt r.equal x y path)
      ∧ ∀ (v : α) (k l : Kind), k ≠ l →
        [.null, .value v, .array (.emptyOf k), .array (.emptyOf l)].Pairwise
          fun u w : Element α => ∀ path, x.at? path = some u → y.at? path = some w →
            r.deepEq x y = false ∧ r.deepEq y x = false := by
  refine ⟨Element.deepEq_iff_forall_path, fun v k l hkl => ?_⟩
  -- the four elements are of four forms, and a tree shows the form of what stands in it
  have hdistinct : [Element.null, .value v, .array (.emptyOf k), .array (.emptyOf l)].Pairwise
      fun u w => u.form ≠ w.form := by
    simp [Element.form, TypedArray.kind_emptyOf, hkl]
  refine hdistinct.imp fun hform path hx hy => ?_
  exact ⟨Element.deepEq_eq_false_of_form_ne hx hy hform,
    Element.deepEq_eq_false_of_form_ne hy hx hform.symm⟩

/-- A list in a list, with one element at the bottom. -/
def twiceNested (x : Element String) : Element String :=
  .array (.reference [.array (.reference [x])])

/-- Even the rule that takes all strings for the same tells an empty list from null and from an empty
array of numbers, two levels down; and a NaN down there is identical to itself. -/
theorem deepEq_iff_agree_everywhere_nested :
    always.deepEq (twiceNested .null) (twiceNested (.array (.emptyOf .reference))) = false
      ∧ always.deepEq (twiceNested (.array (.emptyOf (.flat .int64))))
          (twiceNested (.array (.emptyOf .reference))) = false
      ∧ ∀ path, Element.AgreeAt always.equal
          (twiceNested (.array (.flat ⟨.float64, [Binary.nan true]⟩)))
          (twiceNested (.array (.flat ⟨.float64, [Binary.nan true]⟩))) path := by
  have hdistinct := fun x y : Element String =>
    (deepEq_iff_agree_everywhere always x y).2 "" (.flat .int64) .reference (by decide)
  have hnull := hdistinct (twiceNested .null) (twiceNested (.array (.emptyOf .reference)))
  have hkinds := hdistinct (twiceNested (.array (.emptyOf (.flat .int64))))
    (twiceNested (.array (.emptyOf .reference)))
  simp only [List.pairwise_cons] at hnull hkinds
  refine ⟨?_, ?_, ?_⟩
  · exact (hnull.1 _ (by simp) [0, 0] rfl rfl).1
  · exact (hkinds.2.2.1 _ (by simp) [0, 0] rfl rfl).1
  · exact (deepEq_iff_agree_everywhere always _ _).1.1 (by decide)

end ScalarRule

end Haystack
