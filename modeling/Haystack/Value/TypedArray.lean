import Haystack.Kind.Item

/-!
# Arrays of one kind

A `FlatArray` is a flat kind and a list of items of that kind. A `TypedArray ε` is a flat array or a
list of references of some type `ε`. Leaving `ε` open lets everything that does not look inside a
reference be said once, without recursion: length, kind, reordering and searching.
-/

namespace Haystack

/-- An array of a flat kind. -/
structure FlatArray where
  kind : FlatKind
  items : List kind.Item

namespace FlatArray

/-- Flat arrays are compared by their kinds first, as only items of one kind have one type. -/
instance : DecidableEq FlatArray
  | ⟨k, xs⟩, ⟨l, ys⟩ =>
    if h : k = l then
      if hi : h ▸ xs = ys then
        isTrue (by subst h; subst hi; rfl)
      else isFalse (by rintro ⟨⟩; exact hi rfl)
    else isFalse (by rintro ⟨⟩; exact h rfl)

/-- The number of items. -/
def length (a : FlatArray) : Nat :=
  a.items.length

/-- The hash of a flat array. -/
def hash (a : FlatArray) : Int32 :=
  a.kind.hashItems a.items

end FlatArray

/-- **An array of one kind**, flat or of references. -/
inductive TypedArray (ε : Type) where
  | flat (array : FlatArray)
  | reference (items : List ε)

namespace TypedArray

variable {ε : Type}

/-- The kind of the items. -/
def kind : TypedArray ε → Kind
  | flat a => .flat a.kind
  | reference _ => .reference

/-- The number of items. -/
def length : TypedArray ε → Nat
  | flat a => a.length
  | reference items => items.length

/-- Whether there is no item. -/
def isEmpty (a : TypedArray ε) : Bool :=
  a.length == 0

end TypedArray

end Haystack
