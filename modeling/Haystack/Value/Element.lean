import Haystack.Digest.Written
import Haystack.Value.TypedArray

/-!
# Elements and nested arrays

An `Element α` is what a reference may stand for: nothing, an opaque value of type `α`, or an array
whose own references are elements again. An `ElementArray α` is an array of such references.

**Deep equality and structural hash** go down through nested arrays. Flat arrays are compared and
hashed exactly, and opaque values by a `ScalarRule`, which the caller supplies: an equality and a hash,
of which nothing is assumed. Null, a value and an array are never equal to each other, and neither are
arrays of two kinds, even when both are empty.

Each function on elements comes with its companions on arrays and on lists of references; the three
are one recursion.
-/

namespace Haystack

/-- What a reference may stand for. -/
inductive Element (α : Type) where
  | null
  | value (v : α)
  | array (a : TypedArray (Element α))

/-- An array whose references, if it holds any, are elements. -/
abbrev ElementArray (α : Type) := TypedArray (Element α)

/-- How opaque values are compared and hashed. -/
structure ScalarRule (α : Type) where
  /-- Whether two values count as equal. -/
  equal : α → α → Bool
  /-- The contribution of a value to a hash. -/
  hash : α → Int32

namespace ScalarRule

variable {α : Type}

/-- The rule that goes by the values themselves: `==` and the hash of the bytes. -/
def byValue [BEq α] [Digest.Written α] : ScalarRule α where
  equal x y := x == y
  hash := Digest.valueHash

/-- The rule that looks at the images of the values under a function. -/
def onImage {β : Type} (f : α → β) (r : ScalarRule β) : ScalarRule α where
  equal x y := r.equal (f x) (f y)
  hash x := r.hash (f x)

end ScalarRule

/-! ### Shape -/

namespace Element

variable {α : Type}

/-- Whether an element is null. -/
def isNull : Element α → Bool
  | null => true
  | _ => false

/-- The array that an element is, if it is one. -/
def array? : Element α → Option (ElementArray α)
  | array a => some a
  | _ => none

/-! ### Deep equality -/

mutual

/-- **Deep equality of elements** under an equality of opaque values. -/
def deepEq (equal : α → α → Bool) : Element α → Element α → Bool
  | null, null => true
  | value x, value y => equal x y
  | array a, array b => deepEqArray equal a b
  | _, _ => false

/-- Deep equality of arrays. -/
def deepEqArray (equal : α → α → Bool) : TypedArray (Element α) → TypedArray (Element α) → Bool
  | .flat a, .flat b => decide (a = b)
  | .reference xs, .reference ys => deepEqList equal xs ys
  | _, _ => false

/-- Deep equality of lists of references: equal lengths, and equal item by item. -/
def deepEqList (equal : α → α → Bool) : List (Element α) → List (Element α) → Bool
  | [], [] => true
  | x :: xs, y :: ys => deepEq equal x y && deepEqList equal xs ys
  | _, _ => false

end

/-- Elements are the same when they are deeply equal. -/
instance [BEq α] : BEq (Element α) where
  beq := deepEq (· == ·)

/-! ### Structural hash -/

mutual

/-- **The structural hash of an element** under a hash of opaque values. -/
def structuralHash (hash : α → Int32) : Element α → Int32
  | null => Digest.ofNull
  | value x => hash x
  | array a => structuralHashArray hash a

/-- The structural hash of an array. -/
def structuralHashArray (hash : α → Int32) : TypedArray (Element α) → Int32
  | .flat a => a.hash
  | .reference xs => Digest.ofContributions (contributions hash xs)

/-- What a list of references contributes to a hash. -/
def contributions (hash : α → Int32) : List (Element α) → List Int32
  | [] => []
  | x :: xs => structuralHash hash x :: contributions hash xs

end

/-! ### Images -/

mutual

/-- The element with every opaque value, at every depth, replaced by its image. -/
def map {β : Type} (f : α → β) : Element α → Element β
  | null => null
  | value x => value (f x)
  | array a => array (mapArray f a)

/-- The array with every opaque value, at every depth, replaced by its image. -/
def mapArray {β : Type} (f : α → β) : TypedArray (Element α) → TypedArray (Element β)
  | .flat a => .flat a
  | .reference xs => .reference (mapList f xs)

/-- The list of references with every opaque value, at every depth, replaced by its image. -/
def mapList {β : Type} (f : α → β) : List (Element α) → List (Element β)
  | [] => []
  | x :: xs => map f x :: mapList f xs

end

/-- What references contribute to a hash is the list of their hashes. -/
theorem contributions_eq_map (hash : α → Int32) (xs : List (Element α)) :
    contributions hash xs = xs.map (structuralHash hash) := by
  induction xs with
  | nil => simp [contributions]
  | cons x xs ih => simp [contributions, ih]

/-- The image of a list of references is the list of their images. -/
theorem mapList_eq_map {β : Type} (f : α → β) (xs : List (Element α)) :
    mapList f xs = xs.map (map f) := by
  induction xs with
  | nil => simp [mapList]
  | cons x xs ih => simp [mapList, ih]

/-- An element writes its structural hash. -/
instance [Digest.Written α] : Digest.Written (Element α) where
  bytes x := Digest.wordBytes (x.structuralHash Digest.valueHash)

end Element

namespace ScalarRule

variable {α : Type} (r : ScalarRule α)

/-- Deep equality of elements under a rule. -/
def deepEq (x y : Element α) : Bool :=
  x.deepEq r.equal y

/-- Deep equality of arrays under a rule. -/
def deepEqArray (a b : ElementArray α) : Bool :=
  Element.deepEqArray r.equal a b

/-- The structural hash of an element under a rule. -/
def structuralHash (x : Element α) : Int32 :=
  x.structuralHash r.hash

/-- The structural hash of an array under a rule. -/
def structuralHashArray (a : ElementArray α) : Int32 :=
  Element.structuralHashArray r.hash a

end ScalarRule

/-- Arrays are the same when they are deeply equal. -/
instance {α : Type} [BEq α] : BEq (ElementArray α) where
  beq := Element.deepEqArray (· == ·)

/-- An array writes its structural hash, as the element does that it makes. -/
instance {α : Type} [Digest.Written α] : Digest.Written (ElementArray α) where
  bytes a := Digest.wordBytes (Element.structuralHashArray Digest.valueHash a)

end Haystack
