import Haystack.Proofs.Value.Element
import Haystack.Value.TextRule

/-!
# Equal values hash alike

Deep equality and the structural hash are two recursions over the same trees, written apart from each
other. A map that is keyed by arrays relies on the two to agree: what is equal has one hash.

A rule for opaque values is `Consistent` if its own equality and its own hash agree. The structural
hash of a tree is a function of the hashes of its opaque values, and deep equality relates only trees
of one shape with related values, so consistency is passed on from the rule to deep equality
(`structuralHash_eq_of_deepEq`).

An element that serves as an opaque value itself writes its structural hash. Hence elements that are
the same write the same bytes (`bytes_eq_of_beq`), and this repeats at every further level of nesting.
-/

namespace Haystack

variable {α : Type}

/-- **A consistent rule**: the values that it takes for equal contribute alike to a hash. -/
def ScalarRule.Consistent (r : ScalarRule α) : Prop :=
  ∀ u v, r.equal u v = true → r.hash u = r.hash v

/-- Values that are the same write the same bytes. -/
def Digest.WritesAlike (α : Type) [BEq α] [Digest.Written α] : Prop :=
  ∀ u v : α, (u == v) = true → Digest.Written.bytes u = Digest.Written.bytes v

namespace Element

variable {equal : α → α → Bool} {hash : α → Int32}

/-- **Equal elements hash alike** if equal values do. The induction is on the left element; its shape
is the shape of the right one. -/
theorem structuralHash_eq_of_deepEq (hvalue : ∀ u v, equal u v = true → hash u = hash v)
    {x y : Element α} (h : deepEq equal x y = true) :
    structuralHash hash x = structuralHash hash y := by
  induction x generalizing y with
  | null => rw [null_deepEq_iff.1 h]
  | value u =>
    -- opaque values are hashed by the rule, which is consistent
    obtain ⟨v, rfl, huv⟩ := value_deepEq_iff.1 h
    rw [structuralHash, structuralHash]
    exact hvalue u v huv
  | flat a => rw [flat_deepEq_iff.1 h]
  | reference xs ih =>
    obtain ⟨ys, rfl, hxs⟩ := reference_deepEq_iff.1 h
    rw [structuralHash_reference, structuralHash_reference]
    -- the hash of a list is decided by the hashes of its items
    congr 1
    rw [← List.forall₂_eq_eq_eq, List.forall₂_map_left_iff, List.forall₂_map_right_iff]
    exact forall₂_of_mem (fun x hx y hxy => ih x hx hxy) hxs

/-- Equal arrays hash alike, being equal elements. -/
theorem structuralHashArray_eq_of_deepEqArray
    (hvalue : ∀ u v, equal u v = true → hash u = hash v) {a b : ElementArray α}
    (h : deepEqArray equal a b = true) :
    structuralHashArray hash a = structuralHashArray hash b := by
  -- arrays are compared and hashed as the elements that they make
  have helem : deepEq equal (.array a) (.array b) = true := by
    rw [deepEq_array]
    exact h
  rw [← structuralHash_array, ← structuralHash_array]
  exact structuralHash_eq_of_deepEq hvalue helem

end Element

namespace Digest

variable [Written α]

/-- The value hash looks at the bytes only. -/
theorem valueHash_eq_of_bytes_eq {u v : α} (h : Written.bytes u = Written.bytes v) :
    valueHash u = valueHash v := by
  rw [valueHash, valueHash, h]

variable [BEq α]

/-- Values that are the same hash alike if they write the same bytes. -/
theorem WritesAlike.valueHash_eq (hα : WritesAlike α) (u v : α) (h : (u == v) = true) :
    valueHash u = valueHash v :=
  valueHash_eq_of_bytes_eq (hα u v h)

/-- **Elements that are the same write the same bytes** if their opaque values do. -/
theorem WritesAlike.element (hα : WritesAlike α) : WritesAlike (Element α) := by
  intro x y h
  show wordBytes (x.structuralHash valueHash) = wordBytes (y.structuralHash valueHash)
  rw [Element.structuralHash_eq_of_deepEq hα.valueHash_eq h]

/-- So do arrays that are the same. -/
theorem WritesAlike.elementArray (hα : WritesAlike α) : WritesAlike (ElementArray α) := by
  intro a b h
  show wordBytes (Element.structuralHashArray valueHash a)
    = wordBytes (Element.structuralHashArray valueHash b)
  rw [Element.structuralHashArray_eq_of_deepEqArray hα.valueHash_eq h]

end Digest

namespace ScalarRule

/-- **Equality implies equal hash.** Under a consistent rule, elements that are deeply equal have one
structural hash, and so have arrays. If the opaque values that are the same write the same bytes, then
elements that are the same have one structural hash, and as opaque values one value hash; and so have
arrays. -/
theorem hash_eq_of_deepEq (α : Type) :
    (∀ r : ScalarRule α, r.Consistent →
        (∀ x y : Element α, r.deepEq x y = true → r.structuralHash x = r.structuralHash y)
          ∧ ∀ a b : ElementArray α,
            r.deepEqArray a b = true → r.structuralHashArray a = r.structuralHashArray b)
      ∧ ∀ [BEq α] [Digest.Written α], Digest.WritesAlike α →
        (∀ x y : Element α, (x == y) = true →
            byValue.structuralHash x = byValue.structuralHash y
              ∧ Digest.valueHash x = Digest.valueHash y)
          ∧ ∀ a b : ElementArray α, (a == b) = true →
            byValue.structuralHashArray a = byValue.structuralHashArray b
              ∧ Digest.valueHash a = Digest.valueHash b := by
  refine ⟨fun r hr => ⟨?_, ?_⟩, fun {_} {_} hα => ⟨?_, ?_⟩⟩
  · intro x y h
    exact Element.structuralHash_eq_of_deepEq hr h
  · intro a b h
    exact Element.structuralHashArray_eq_of_deepEqArray hr h
  · intro x y h
    exact ⟨Element.structuralHash_eq_of_deepEq hα.valueHash_eq h, hα.element.valueHash_eq x y h⟩
  · intro a b h
    exact ⟨Element.structuralHashArray_eq_of_deepEqArray hα.valueHash_eq h,
      hα.elementArray.valueHash_eq a b h⟩

/-- A nested list of references, with a string in it. -/
def nestedArray (s : String) : ElementArray String :=
  .reference [.null, .array (.reference [.value s, .array (.flat ⟨.float64, [Binary.nan true]⟩)])]

/-- The rule that ignores case is consistent, so nested lists whose strings differ in case only hash
alike under it. Strings that are the same write the same bytes, so lists that are the same have one
value hash, the NaN in them notwithstanding. -/
theorem hash_eq_of_deepEq_ignoringCase :
    ignoringCase.Consistent
      ∧ Digest.WritesAlike String
      ∧ ignoringCase.structuralHashArray (nestedArray "Lower")
          = ignoringCase.structuralHashArray (nestedArray "lOWER")
      ∧ Digest.valueHash (nestedArray ("co" ++ "py")) = Digest.valueHash (nestedArray "copy") := by
  -- the rule hashes what it compares, the letters in lower case
  have hrule : ignoringCase.Consistent := by
    intro u v h
    show Digest.valueHash (u.map Char.toLower) = Digest.valueHash (v.map Char.toLower)
    rw [eq_of_beq h]
  have hstring : Digest.WritesAlike String := by
    intro u v h
    rw [eq_of_beq h]
  -- both strings are the same in lower case
  have hletters : ignoringCase.equal "Lower" "lOWER" = true := by
    show ("Lower".map Char.toLower == "lOWER".map Char.toLower) = true
    rw [beq_iff_eq, ← String.toList_inj, String.toList_map, String.toList_map]
    decide
  have hcase : ignoringCase.deepEqArray (nestedArray "Lower") (nestedArray "lOWER") = true := by
    simp [nestedArray, deepEqArray, Element.deepEqArray, Element.deepEqList, Element.deepEq,
      hletters]
  have hcopy : (nestedArray ("co" ++ "py") == nestedArray "copy") = true := by
    decide
  obtain ⟨hby, hsame⟩ := hash_eq_of_deepEq String
  exact ⟨hrule, hstring, (hby ignoringCase hrule).2 _ _ hcase, ((hsame hstring).2 _ _ hcopy).2⟩

end ScalarRule

end Haystack
