import Haystack.Value.Element
import Mathlib.Data.List.Forall2

/-!
# Induction on elements

`Element` is a nested inductive type: an element may hold a list of elements. Its functions come as
three companions, on elements, on arrays and on lists of references, and this file does away with the
companions, so that what is said about elements can be proven by one induction on elements alone:

* `Element.inductionOn` is the induction. Its cases are null, a value, a flat array, and an array of
  references each of which is known already; plain `induction x` uses it.
* `deepEqList_iff` and `contributions_eq_map` turn the companions on lists into `List.Forall₂` and
  `List.map`, about which the library knows everything.
* `deepEq_array` and `structuralHash_array` turn the companions on arrays into the element that an
  array makes.

Deep equality is read through one lemma for each shape of its left side (`null_deepEq_iff` and its
neighbours). They say everything about the right side, so no later proof splits on both sides.
-/

namespace Haystack.Element

variable {α : Type}

/-! ### The induction -/

/-- **Induction on elements.** In the case of references the statement may be assumed for every one
of them. -/
@[elab_as_elim, induction_eliminator]
theorem inductionOn {motive : Element α → Prop} (null : motive .null)
    (value : ∀ v, motive (.value v)) (flat : ∀ a, motive (.array (.flat a)))
    (reference : ∀ xs, (∀ x ∈ xs, motive x) → motive (.array (.reference xs))) (x : Element α) :
    motive x :=
  match x with
  | .null => null
  | .value v => value v
  | .array (.flat a) => flat a
  | .array (.reference xs) => reference xs fun x _ => inductionOn null value flat reference x

/-- What the induction says of every item of a list carries over to a list that is related to it. -/
theorem forall₂_of_mem {β : Type} {R S : β → β → Prop} {xs ys : List β}
    (hmem : ∀ x ∈ xs, ∀ y, R x y → S x y) (h : List.Forall₂ R xs ys) : List.Forall₂ S xs ys := by
  -- membership is kept beside the relation, as the hypothesis is about members
  have hboth := (List.forall₂_and_left xs ys).2 ⟨hmem, h⟩
  exact hboth.imp fun x y hxy => hxy.1 y hxy.2

/-- Lists are related item by item when they are so at every position, the positions past the ends
included. -/
theorem forall₂_iff_rel_getElem? {β γ : Type} {R : β → γ → Prop} {xs : List β} {ys : List γ} :
    List.Forall₂ R xs ys ↔ ∀ i : Nat, Option.Rel R xs[i]? ys[i]? := by
  constructor
  · intro h
    induction h with
    | nil => exact fun _ => .none
    | cons hxy _ ih =>
      intro i
      cases i with
      | zero => exact .some hxy
      | succ i => exact ih i
  · intro h
    -- at the front position either both lists have an item or both are over
    induction xs generalizing ys with
    | nil =>
      cases ys with
      | nil => exact .nil
      | cons y ys => cases h 0
    | cons x xs ih =>
      cases ys with
      | nil => cases h 0
      | cons y ys => exact .cons (Option.rel_some_some.1 (h 0)) (ih fun i => h (i + 1))

/-! ### Deep equality by shape -/

section DeepEq

variable {equal : α → α → Bool}

/-- The equality of arrays is that of the elements that they make. -/
theorem deepEq_array (a b : ElementArray α) :
    deepEq equal (.array a) (.array b) = deepEqArray equal a b := by
  rw [deepEq]

/-- Lists of references are equal when they are equally long and equal item by item. -/
theorem deepEqList_iff (xs ys : List (Element α)) :
    deepEqList equal xs ys = true ↔ List.Forall₂ (fun x y => deepEq equal x y = true) xs ys := by
  induction xs generalizing ys with
  | nil => cases ys <;> simp [deepEqList]
  | cons x xs ih =>
    cases ys with
    | nil => simp [deepEqList]
    | cons y ys => rw [deepEqList, Bool.and_eq_true, ih, List.forall₂_cons]

/-- A null equals null only. -/
theorem null_deepEq_iff {y : Element α} : deepEq equal .null y = true ↔ y = .null := by
  cases y <;> simp [deepEq]

/-- A value equals the values that the rule says. -/
theorem value_deepEq_iff {u : α} {y : Element α} :
    deepEq equal (.value u) y = true ↔ ∃ v, y = .value v ∧ equal u v = true := by
  cases y <;> simp [deepEq]

/-- A flat array equals itself only. -/
theorem flat_deepEq_iff {a : FlatArray} {y : Element α} :
    deepEq equal (.array (.flat a)) y = true ↔ y = .array (.flat a) := by
  rcases y with _ | v | (b | ys) <;> simp [deepEq, deepEqArray, eq_comm]

/-- An array of references equals the arrays of references that are equal to it item by item. -/
theorem reference_deepEq_iff {xs : List (Element α)} {y : Element α} :
    deepEq equal (.array (.reference xs)) y = true
      ↔ ∃ ys, y = .array (.reference ys)
          ∧ List.Forall₂ (fun x y => deepEq equal x y = true) xs ys := by
  rcases y with _ | v | (b | ys) <;> simp [deepEq, deepEqArray, deepEqList_iff]

end DeepEq

/-! ### Structural hash by shape -/

/-- The hash of an array is that of the element that it makes. -/
theorem structuralHash_array (hash : α → Int32) (a : ElementArray α) :
    structuralHash hash (.array a) = structuralHashArray hash a := by
  rw [structuralHash]

/-- An array of references is hashed by the hashes of its references. -/
theorem structuralHash_reference (hash : α → Int32) (xs : List (Element α)) :
    structuralHash hash (.array (.reference xs))
      = Digest.ofContributions (xs.map (structuralHash hash)) := by
  rw [structuralHash, structuralHashArray, contributions_eq_map]

end Haystack.Element
