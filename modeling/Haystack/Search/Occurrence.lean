/-!
# Occurrences

Where a pattern stands in a list of items. `OccursAt` says it by positions: the pattern fits, and
every item of it agrees with the item it lies on. `startsWith` decides it at the front of a list by
walking both lists together. Agreement is an arbitrary relation that looks at the item of the haystack
first and at the item of the pattern second; it need be neither symmetric nor transitive.
-/

namespace Haystack.Search

variable {α β : Type}

/-- **The pattern occurs at position `i`**: it fits into what is left there and agrees item by item. -/
def OccursAt (agree : α → β → Bool) (haystack : List α) (pattern : List β) (i : Nat) : Prop :=
  i + pattern.length ≤ haystack.length ∧
    ∀ j x y, haystack[i + j]? = some x → pattern[j]? = some y → agree x y = true

/-- Whether the pattern occurs at the front of the haystack. -/
def startsWith (agree : α → β → Bool) : List α → List β → Bool
  | _, [] => true
  | [], _ :: _ => false
  | x :: xs, y :: ys => agree x y && startsWith agree xs ys

/-- Walking both lists together decides the occurrence at the front. -/
theorem startsWith_iff (agree : α → β → Bool) (xs : List α) (ys : List β) :
    startsWith agree xs ys = true ↔ OccursAt agree xs ys 0 := by
  fun_induction startsWith agree xs ys with
  | case1 xs => simp [OccursAt]
  | case2 y ys => simp [OccursAt]
  | case3 x xs y ys ih =>
    simp only [OccursAt, Bool.and_eq_true, ih, Nat.zero_add, List.length_cons,
      Nat.add_le_add_iff_right]
    constructor
    · rintro ⟨hxy, hle, h⟩
      refine ⟨hle, fun j u v hu hv => ?_⟩
      cases j with
      | zero => simp_all
      | succ j => exact h j u v (by simpa using hu) (by simpa using hv)
    · rintro ⟨hle, h⟩
      exact ⟨h 0 x y rfl rfl, hle, fun j u v hu hv => h (j + 1) u v (by simpa using hu)
        (by simpa using hv)⟩

/-- Occurring at a position is occurring at the front of what is left there. -/
theorem occursAt_drop_iff (agree : α → β → Bool) {xs : List α} (ys : List β) {i : Nat}
    (h : i ≤ xs.length) : OccursAt agree (xs.drop i) ys 0 ↔ OccursAt agree xs ys i := by
  simp only [OccursAt, List.length_drop, Nat.zero_add, List.getElem?_drop]
  constructor <;> rintro ⟨hle, h'⟩ <;> exact ⟨by omega, h'⟩

end Haystack.Search
