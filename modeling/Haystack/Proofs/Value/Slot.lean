import Haystack.Value.TypedArray
import Mathlib.Data.List.Basic

/-!
# Slots of typed arrays

The items of an array have a type that depends on its kind. A `Slot` is an item together with the kind
that it has, so the slots of arrays of any kind have one type, and what an operation does to an array
can be said of a list. A kind and a list of slots determine the array (`eq_of_slots_eq`), so nothing is
lost in saying it that way.
-/

namespace Haystack

/-- **An item of a typed array**, with its kind. -/
inductive Slot (ε : Type) where
  | flat (kind : FlatKind) (item : kind.Item)
  | reference (item : ε)

namespace TypedArray

variable {ε : Type}

/-- The items of an array as slots, in order. -/
def slots : TypedArray ε → List (Slot ε)
  | .flat a => a.items.map (.flat a.kind)
  | .reference xs => xs.map .reference

/-- The slots of a flat array are its items with their kind. -/
theorem slots_flat (k : FlatKind) (xs : List k.Item) :
    (flat ⟨k, xs⟩ : TypedArray ε).slots = xs.map (.flat k) := rfl

/-- The slots of an array of references are the references. -/
theorem slots_reference (xs : List ε) : (reference xs).slots = xs.map .reference := rfl

/-- An array has as many slots as items. -/
@[simp] theorem length_slots (a : TypedArray ε) : a.slots.length = a.length := by
  rcases a with ⟨k, xs⟩ | xs
  · rw [slots_flat, List.length_map]
    rfl
  · rw [slots_reference, List.length_map]
    rfl

/-- **Two arrays of one kind** are flat arrays whose items have one type, or lists of references. -/
theorem cases_of_kind_eq {a b : TypedArray ε} (hkind : a.kind = b.kind) :
    (∃ (k : FlatKind) (xs ys : List k.Item), a = flat ⟨k, xs⟩ ∧ b = flat ⟨k, ys⟩)
      ∨ ∃ xs ys, a = reference xs ∧ b = reference ys := by
  rcases a with ⟨k, xs⟩ | xs <;> rcases b with ⟨l, ys⟩ | ys
  · -- a flat kind tells the type of the items
    obtain rfl : k = l := by
      simpa only [kind, Kind.flat.injEq] using hkind
    exact .inl ⟨k, xs, ys, rfl, rfl⟩
  · exact absurd hkind (by simp [kind])
  · exact absurd hkind (by simp [kind])
  · exact .inr ⟨xs, ys, rfl, rfl⟩

/-- **The kind and the slots determine the array.** -/
theorem eq_of_slots_eq {a b : TypedArray ε} (hkind : a.kind = b.kind) (hslots : a.slots = b.slots) :
    a = b := by
  rcases cases_of_kind_eq hkind with ⟨k, xs, ys, rfl, rfl⟩ | ⟨xs, ys, rfl, rfl⟩
  · -- an item is not lost in its slot
    have hinj : Function.Injective (Slot.flat k : k.Item → Slot ε) := fun _ _ h => by
      simpa only [Slot.flat.injEq, heq_eq_eq, true_and] using h
    obtain rfl : xs = ys := List.map_injective_iff.2 hinj hslots
    rfl
  · -- nor is a reference
    have hinj : Function.Injective (Slot.reference : ε → Slot ε) := fun _ _ => Slot.reference.inj
    obtain rfl : xs = ys := List.map_injective_iff.2 hinj hslots
    rfl

end TypedArray

end Haystack
