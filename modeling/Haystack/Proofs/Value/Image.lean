import Haystack.Proofs.Value.Equality
import Haystack.Proofs.Value.Path

/-!
# A rule acts on opaque values and on nothing else

A caller who wants opaque values compared by something about them, by their images under a function `f`
say, can do one of two things: hand over a rule that looks at the images (`ScalarRule.onImage`), or
replace every value by its image (`Element.map`) and compare what comes out by the images themselves. This
file shows that there is no difference, neither in deep equality nor in the structural hash. So the rule
reaches every opaque value at every depth, and it does not reach anything else: nulls, flat arrays and the
nesting are what they were, and have the same say in both.

* `Element.forall_path_imageAt_iff` — `Element.map` is what it should be. At every path it puts the
  image of a value where there is a value, and keeps what else there is.
* `Element.deepEq_map` and `Element.structuralHash_map` are the two laws, by induction on elements.
* `ScalarRule.onImage_acts_on_values` says it of rules, for elements and arrays.
-/

namespace Haystack

variable {α β : Type}

namespace Element

variable (f : α → β)

/-! ### Images by shape -/

/-- The image of a null is a null. -/
@[simp] theorem map_null : map f null = null := by
  rw [map]

/-- The image of a value is a value. -/
@[simp] theorem map_value (v : α) : map f (value v) = value (f v) := by
  rw [map]

/-- The image of an array is an array. -/
theorem map_array (a : ElementArray α) : map f (array a) = array (mapArray f a) := by
  rw [map]

/-- A flat array is its own image. -/
@[simp] theorem map_flat (a : FlatArray) : map f (array (.flat a)) = array (.flat a) := by
  rw [map, mapArray]

/-- References are mapped one by one. -/
@[simp] theorem map_reference (xs : List (Element α)) :
    map f (array (.reference xs)) = array (.reference (xs.map (map f))) := by
  rw [map, mapArray, mapList_eq_map]

/-! ### Images at every path -/

/-- **One element is the image of the other at its top**, that is, apart from the references in it. -/
inductive ImageAtTop : Element α → Element β → Prop
  | null : ImageAtTop null null
  | value (v : α) : ImageAtTop (value v) (value (f v))
  | flat (a : FlatArray) : ImageAtTop (array (.flat a)) (array (.flat a))
  | reference {xs : List (Element α)} {ys : List (Element β)} (h : xs.length = ys.length) :
    ImageAtTop (array (.reference xs)) (array (.reference ys))

/-- The image of an element is its image at the top. -/
theorem imageAtTop_map (x : Element α) : ImageAtTop f x (x.map f) := by
  rcases x with _ | v | (a | xs)
  · rw [map_null]
    exact .null
  · rw [map_value]
    exact .value v
  · rw [map_flat]
    exact .flat a
  · rw [map_reference]
    exact .reference (xs.length_map (map f)).symm

/-- Taking images and going along a path can be exchanged. -/
theorem at?_map (x : Element α) (path : List Nat) :
    (x.map f).at? path = (x.at? path).map (map f) := by
  induction path generalizing x with
  | nil => rw [at?_nil, at?_nil, Option.map_some]
  | cons i path ih =>
    rcases x with _ | v | (a | xs)
    · rw [map_null, at?_null_cons, at?_null_cons, Option.map_none]
    · rw [map_value, at?_value_cons, at?_value_cons, Option.map_none]
    · rw [map_flat, at?_flat_cons, at?_flat_cons, Option.map_none]
    · -- the reference that the path goes into is mapped by itself
      rw [map_reference, at?_reference_cons, at?_reference_cons, List.getElem?_map]
      cases xs[i]? with
      | none => rfl
      | some x => exact ih x

/-- **One tree is the image of the other at a path** if it leads out of both, or to elements of which one
is the image of the other at its top. -/
def ImageAt (x : Element α) (y : Element β) (path : List Nat) : Prop :=
  Option.Rel (ImageAtTop f) (x.at? path) (y.at? path)

variable {f}

/-- At the empty path it is the two tops that are compared. -/
theorem imageAt_nil_iff {x : Element α} {y : Element β} : ImageAt f x y [] ↔ ImageAtTop f x y := by
  rw [ImageAt, at?_nil, at?_nil, Option.rel_some_some]

/-- A longer path compares two of the references. -/
theorem imageAt_reference_cons_iff {xs : List (Element α)} {ys : List (Element β)} {i : Nat}
    (hx : i < xs.length) (hy : i < ys.length) (path : List Nat) :
    ImageAt f (array (.reference xs)) (array (.reference ys)) (i :: path)
      ↔ ImageAt f xs[i] ys[i] path := by
  rw [ImageAt, ImageAt, at?_reference_cons, at?_reference_cons, List.getElem?_eq_getElem hx,
    List.getElem?_eq_getElem hy, Option.bind_some, Option.bind_some]

variable (f) in
/-- **The image of an element** is the only element that is its image at every path. The induction is on
the element; the items of a list of references are reached by the paths that begin with their
positions. -/
theorem forall_path_imageAt_iff (x : Element α) (y : Element β) :
    (∀ path, ImageAt f x y path) ↔ y = x.map f := by
  constructor
  · intro h
    induction x generalizing y with
    | null =>
      cases imageAt_nil_iff.1 (h [])
      exact (map_null f).symm
    | value v =>
      cases imageAt_nil_iff.1 (h [])
      exact (map_value f v).symm
    | flat a =>
      cases imageAt_nil_iff.1 (h [])
      exact (map_flat f a).symm
    | reference xs ih =>
      cases imageAt_nil_iff.1 (h []) with
      | @reference _ ys hlength =>
        -- the lists are equally long, and each item is the image of the other by the induction
        have hitems : ys = xs.map (map f) := by
          refine List.ext_getElem (by rw [List.length_map, hlength]) fun i hy _ => ?_
          have hx : i < xs.length := hlength ▸ hy
          rw [List.getElem_map]
          exact ih xs[i] (List.getElem_mem hx) ys[i] fun path =>
            (imageAt_reference_cons_iff hx hy path).1 (h (i :: path))
        rw [hitems, map_reference]
  · rintro rfl path
    rw [ImageAt, at?_map]
    cases x.at? path with
    | none => exact .none
    | some u => exact .some (imageAtTop_map f u)

/-! ### The two laws -/

/-- **Deep equality of images** is deep equality under the rule that looks at images. -/
theorem deepEq_map (equal : β → β → Bool) (x y : Element α) :
    deepEq equal (x.map f) (y.map f) = deepEq (fun u v => equal (f u) (f v)) x y := by
  refine Bool.eq_iff_iff.2 ?_
  induction x generalizing y with
  | null => rcases y with _ | v | (b | ys) <;> simp [deepEq]
  | value u => rcases y with _ | v | (b | ys) <;> simp [deepEq]
  | flat a => rcases y with _ | v | (b | ys) <;> simp [deepEq, deepEqArray]
  | reference xs ih =>
    rcases y with _ | v | (b | ys)
    · simp [deepEq]
    · simp [deepEq]
    · simp [deepEq, deepEqArray]
    · -- lists of references are compared item by item, and the items by the induction
      rw [map_reference, map_reference, deepEq_array, deepEq_array, deepEqArray, deepEqArray,
        deepEqList_iff, deepEqList_iff, List.forall₂_map_left_iff, List.forall₂_map_right_iff]
      exact ⟨forall₂_of_mem fun x hx y => (ih x hx y).1, forall₂_of_mem fun x hx y => (ih x hx y).2⟩

/-- **The structural hash of an image** is the one under the rule that looks at images. -/
theorem structuralHash_map (hash : β → Int32) (x : Element α) :
    structuralHash hash (x.map f) = structuralHash (fun u => hash (f u)) x := by
  induction x with
  | null => rw [map_null, structuralHash, structuralHash]
  | value u => rw [map_value, structuralHash, structuralHash]
  | flat a => rw [map_flat, structuralHash, structuralHash, structuralHashArray, structuralHashArray]
  | reference xs ih =>
    rw [map_reference, structuralHash_reference, structuralHash_reference, List.map_map]
    -- the contributions are the hashes of the references, equal by the induction
    congr 1
    exact List.map_congr_left ih

end Element

namespace ScalarRule

/-- The law of elements for arrays. -/
theorem onImage_deepEqArray (f : α → β) (r : ScalarRule β) (a b : ElementArray α) :
    (onImage f r).deepEqArray a b = r.deepEqArray (Element.mapArray f a) (Element.mapArray f b) := by
  rw [deepEqArray_eq, deepEqArray_eq, ← Element.map_array, ← Element.map_array]
  exact (Element.deepEq_map r.equal (.array a) (.array b)).symm

/-- The law of elements for arrays. -/
theorem onImage_structuralHashArray (f : α → β) (r : ScalarRule β) (a : ElementArray α) :
    (onImage f r).structuralHashArray a = r.structuralHashArray (Element.mapArray f a) := by
  rw [structuralHashArray, structuralHashArray, ← Element.structuralHash_array,
    ← Element.structuralHash_array, ← Element.map_array]
  exact (Element.structuralHash_map r.hash (.array a)).symm

/-- **A rule that looks at images acts as the images do**, on elements and on arrays, in deep equality and
in the structural hash. The image of a tree is the tree with the image of every opaque value in its place,
and everything else in its own. In particular the rule that compares and hashes the images by themselves
gives what `==` and the structural hash give for the trees of images. -/
theorem onImage_acts_on_values (f : α → β) :
    (∀ (x : Element α) (y : Element β), (∀ path, Element.ImageAt f x y path) ↔ y = x.map f)
      ∧ (∀ a : ElementArray α, (Element.array a).map f = .array (Element.mapArray f a))
      ∧ (∀ r : ScalarRule β,
        (∀ x y : Element α, (onImage f r).deepEq x y = r.deepEq (x.map f) (y.map f))
          ∧ (∀ a b : ElementArray α, (onImage f r).deepEqArray a b
            = r.deepEqArray (Element.mapArray f a) (Element.mapArray f b))
          ∧ (∀ x : Element α, (onImage f r).structuralHash x = r.structuralHash (x.map f))
          ∧ ∀ a : ElementArray α,
            (onImage f r).structuralHashArray a = r.structuralHashArray (Element.mapArray f a))
      ∧ ∀ [BEq β] [Digest.Written β],
        (∀ x y : Element α, (onImage f byValue).deepEq x y = (x.map f == y.map f))
          ∧ (∀ a b : ElementArray α,
            (onImage f byValue).deepEqArray a b = (Element.mapArray f a == Element.mapArray f b))
          ∧ (∀ x : Element α,
            (onImage f byValue).structuralHash x = byValue.structuralHash (x.map f))
          ∧ ∀ a : ElementArray α, (onImage f byValue).structuralHashArray a
            = byValue.structuralHashArray (Element.mapArray f a) := by
  have hequal : ∀ (r : ScalarRule β) (x y : Element α),
      (onImage f r).deepEq x y = r.deepEq (x.map f) (y.map f) := fun r x y =>
    (Element.deepEq_map r.equal x y).symm
  have hhash : ∀ (r : ScalarRule β) (x : Element α),
      (onImage f r).structuralHash x = r.structuralHash (x.map f) := fun r x =>
    (Element.structuralHash_map r.hash x).symm
  refine ⟨Element.forall_path_imageAt_iff f, Element.map_array f, fun r => ?_, ?_⟩
  · exact ⟨hequal r, onImage_deepEqArray f r, hhash r, onImage_structuralHashArray f r⟩
  · intro _ _
    exact ⟨hequal byValue, onImage_deepEqArray f byValue, hhash byValue,
      onImage_structuralHashArray f byValue⟩

end ScalarRule

end Haystack
