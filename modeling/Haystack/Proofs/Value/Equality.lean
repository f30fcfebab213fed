import Haystack.Proofs.Value.Element
import Haystack.Value.TextRule

/-!
# Deep equality inherits the laws of its scalar rule

Deep equality is a function of the equality of opaque values, and nothing is assumed of that equality.
This file shows that whatever laws it has are passed on to elements and arrays of any nesting:

* `deepEq_swapped` — exchanging the two sides amounts to exchanging the two arguments of the rule;
  this holds of every rule, the asymmetric ones included, and symmetry is a special case of it.
* `deepEq_refl` and `deepEq_trans` — reflexivity and transitivity are passed on.

Flat arrays are compared by the items themselves, numbers by their bit patterns, so they never get in
the way: a NaN in a flat array equals itself. That makes `==` an equivalence on elements and on arrays
as soon as it is one on the opaque values, and these instances nest: elements may serve as the opaque
values of further elements.
-/

namespace Haystack

variable {α : Type}

namespace Element

variable {equal : α → α → Bool}

/-- A pairwise relation is transitive along three lists if it is so at every item of the first. -/
private theorem forall₂_trans_of_mem {β : Type} {R : β → β → Prop} {xs ys zs : List β}
    (hmem : ∀ x ∈ xs, ∀ y z, R x y → R y z → R x z) (hxy : List.Forall₂ R xs ys)
    (hyz : List.Forall₂ R ys zs) : List.Forall₂ R xs zs := by
  induction hxy generalizing zs with
  | nil => exact hyz
  | cons hxy _ ih =>
    obtain ⟨z, zs', hz, htail, rfl⟩ := List.forall₂_cons_left_iff.1 hyz
    refine List.Forall₂.cons (hmem _ List.mem_cons_self _ _ hxy hz) (ih ?_ htail)
    intro x hx
    exact hmem x (List.mem_cons_of_mem _ hx)

/-! ### The three laws -/

/-- One direction of `deepEq_swapped`, by induction on the left side. -/
private theorem deepEq_swapped_of_deepEq {x y : Element α} (h : deepEq equal x y = true) :
    deepEq (fun u v => equal v u) y x = true := by
  induction x generalizing y with
  | null =>
    rw [null_deepEq_iff.1 h]
    exact null_deepEq_iff.2 rfl
  | value u =>
    -- only here is the rule asked, with its arguments exchanged
    obtain ⟨v, rfl, huv⟩ := value_deepEq_iff.1 h
    exact value_deepEq_iff.2 ⟨u, rfl, huv⟩
  | flat a =>
    rw [flat_deepEq_iff.1 h]
    exact flat_deepEq_iff.2 rfl
  | reference xs ih =>
    obtain ⟨ys, rfl, hxs⟩ := reference_deepEq_iff.1 h
    refine reference_deepEq_iff.2 ⟨xs, rfl, List.Forall₂.flip ?_⟩
    exact forall₂_of_mem (fun x hx y hxy => ih x hx hxy) hxs

/-- **Exchanging the sides exchanges the arguments of the rule.** -/
theorem deepEq_swapped (equal : α → α → Bool) (x y : Element α) :
    deepEq (fun u v => equal v u) y x = deepEq equal x y :=
  Bool.eq_iff_iff.2 ⟨deepEq_swapped_of_deepEq, deepEq_swapped_of_deepEq⟩

/-- **Reflexivity is passed on.** Only values ask the rule; a flat array is equal to itself whatever
stands in it. -/
theorem deepEq_refl (hrefl : ∀ u, equal u u = true) (x : Element α) : deepEq equal x x = true := by
  induction x with
  | null => exact null_deepEq_iff.2 rfl
  | value u => exact value_deepEq_iff.2 ⟨u, rfl, hrefl u⟩
  | flat a => exact flat_deepEq_iff.2 rfl
  | reference xs ih => exact reference_deepEq_iff.2 ⟨xs, rfl, List.forall₂_same.2 ih⟩

/-- **Transitivity is passed on.** The shape of the first element decides that of the second, and this
one the shape of the third. -/
theorem deepEq_trans
    (htrans : ∀ u v w, equal u v = true → equal v w = true → equal u w = true)
    {x y z : Element α} (hxy : deepEq equal x y = true) (hyz : deepEq equal y z = true) :
    deepEq equal x z = true := by
  induction x generalizing y z with
  | null =>
    rw [null_deepEq_iff.1 hxy] at hyz
    exact hyz
  | value u =>
    obtain ⟨v, rfl, huv⟩ := value_deepEq_iff.1 hxy
    obtain ⟨w, rfl, hvw⟩ := value_deepEq_iff.1 hyz
    exact value_deepEq_iff.2 ⟨w, rfl, htrans u v w huv hvw⟩
  | flat a =>
    rw [flat_deepEq_iff.1 hxy] at hyz
    exact hyz
  | reference xs ih =>
    obtain ⟨ys, rfl, hxs⟩ := reference_deepEq_iff.1 hxy
    obtain ⟨zs, rfl, hys⟩ := reference_deepEq_iff.1 hyz
    -- the hypothesis of the induction is about the items of `xs`, so membership has to be kept
    refine reference_deepEq_iff.2 ⟨zs, rfl, forall₂_trans_of_mem ?_ hxs hys⟩
    intro x hx y z hxy hyz
    exact ih x hx hxy hyz

/-! ### Sameness is an equivalence -/

/-- `==` on elements is deep equality under `==` on opaque values. -/
theorem beq_eq_deepEq [BEq α] (x y : Element α) : (x == y) = deepEq (· == ·) x y := rfl

/-- **`==` on elements is an equivalence** if it is one on opaque values. -/
instance equivBEq [BEq α] [EquivBEq α] : EquivBEq (Element α) where
  rfl := deepEq_refl (fun _ => BEq.rfl) _
  symm {x y} h := by
    -- exchanging the arguments changes nothing here, so exchanging the sides does not either
    rw [beq_eq_deepEq, ← deepEq_swapped]
    have hcomm : (fun u v : α => v == u) = (· == ·) := funext₂ fun _ _ => BEq.comm
    rw [hcomm]
    exact h
  trans hxy hyz := by
    rw [beq_eq_deepEq] at hxy hyz ⊢
    refine deepEq_trans (fun u v w huv hvw => ?_) hxy hyz
    exact BEq.trans huv hvw

end Element

/-- `==` on arrays is that of the elements that they make. -/
theorem ElementArray.beq_eq [BEq α] (a b : ElementArray α) :
    (a == b) = (Element.array a == Element.array b) :=
  (Element.deepEq_array a b).symm

/-- **`==` on arrays is an equivalence** if it is one on opaque values. -/
instance ElementArray.equivBEq [BEq α] [EquivBEq α] : EquivBEq (ElementArray α) where
  rfl {a} := by
    rw [ElementArray.beq_eq]
    exact BEq.rfl
  symm h := by
    rw [ElementArray.beq_eq] at h ⊢
    exact BEq.symm h
  trans hab hbc := by
    rw [ElementArray.beq_eq] at hab hbc ⊢
    exact BEq.trans hab hbc

namespace ScalarRule

/-- The rule that looks at its two values the other way round. -/
def swapped (r : ScalarRule α) : ScalarRule α where
  equal u v := r.equal v u
  hash := r.hash

/-- Arrays are deeply equal if the elements that they make are. -/
theorem deepEqArray_eq (r : ScalarRule α) (a b : ElementArray α) :
    r.deepEqArray a b = r.deepEq (.array a) (.array b) :=
  (Element.deepEq_array a b).symm

/-- **Deep equality has every law that its rule has**, on elements and on arrays. Exchanging the sides
is the same as exchanging the arguments of the rule, whatever the rule; hence symmetry is passed on,
and so are reflexivity and transitivity. In particular `==` is an equivalence on elements and on arrays
when it is one on the opaque values. -/
theorem deepEq_inherits_laws (r : ScalarRule α) :
    ((∀ x y : Element α, r.deepEq x y = r.swapped.deepEq y x)
        ∧ ∀ a b : ElementArray α, r.deepEqArray a b = r.swapped.deepEqArray b a)
      ∧ ((∀ u v, r.equal u v = r.equal v u) →
          (∀ x y : Element α, r.deepEq x y = r.deepEq y x)
            ∧ ∀ a b : ElementArray α, r.deepEqArray a b = r.deepEqArray b a)
      ∧ ((∀ u, r.equal u u = true) →
          (∀ x : Element α, r.deepEq x x = true)
            ∧ ∀ a : ElementArray α, r.deepEqArray a a = true)
      ∧ ((∀ u v w, r.equal u v = true → r.equal v w = true → r.equal u w = true) →
          (∀ x y z : Element α,
              r.deepEq x y = true → r.deepEq y z = true → r.deepEq x z = true)
            ∧ ∀ a b c : ElementArray α,
              r.deepEqArray a b = true → r.deepEqArray b c = true → r.deepEqArray a c = true)
      ∧ ∀ [BEq α] [EquivBEq α], EquivBEq (Element α) ∧ EquivBEq (ElementArray α) := by
  have hswap : ∀ x y : Element α, r.deepEq x y = r.swapped.deepEq y x := fun x y =>
    (Element.deepEq_swapped r.equal x y).symm
  refine ⟨⟨hswap, ?_⟩, ?_, ?_, ?_, ?_⟩
  · intro a b
    rw [deepEqArray_eq, deepEqArray_eq, hswap]
  · intro hsymm
    -- a symmetric rule is its own exchange
    have hr : r.swapped.equal = r.equal := funext₂ fun u v => hsymm v u
    have hx : ∀ x y : Element α, r.deepEq x y = r.deepEq y x := fun x y => by
      rw [hswap, deepEq, hr, deepEq]
    refine ⟨hx, fun a b => ?_⟩
    rw [deepEqArray_eq, deepEqArray_eq, hx]
  · intro hrefl
    refine ⟨Element.deepEq_refl hrefl, fun a => ?_⟩
    rw [deepEqArray_eq]
    exact Element.deepEq_refl hrefl _
  · intro htrans
    refine ⟨fun x y z => Element.deepEq_trans htrans, fun a b c => ?_⟩
    rw [deepEqArray_eq, deepEqArray_eq, deepEqArray_eq]
    exact Element.deepEq_trans htrans
  · intro _ _
    exact ⟨inferInstance, inferInstance⟩

/-- A reference array of a string, a null and a nested array that holds a NaN. -/
def mixedArray (s : String) : ElementArray String :=
  .reference [.value s, .null, .array (.flat ⟨.float64, [Binary.nan true]⟩)]

/-- Counting bytes is a lawful rule, so under it the arrays of three strings of two bytes are related
as the strings are, and each is equal to itself in spite of its NaN. -/
theorem deepEq_inherits_laws_byteLength :
    (∀ u v, byteLength.equal u v = byteLength.equal v u)
      ∧ (∀ u, byteLength.equal u u = true)
      ∧ (∀ u v w, byteLength.equal u v = true → byteLength.equal v w = true →
          byteLength.equal u w = true)
      ∧ byteLength.deepEqArray (mixedArray "ab") (mixedArray "c")
        = byteLength.deepEqArray (mixedArray "c") (mixedArray "ab")
      ∧ byteLength.deepEqArray (mixedArray "ab") (mixedArray "ab") = true
      ∧ byteLength.deepEqArray (mixedArray "ab") (mixedArray "ef") = true := by
  have hsymm : ∀ u v, byteLength.equal u v = byteLength.equal v u := fun u v => BEq.comm
  have hrefl : ∀ u, byteLength.equal u u = true := fun u => BEq.rfl
  have htrans : ∀ u v w, byteLength.equal u v = true → byteLength.equal v w = true →
      byteLength.equal u w = true := fun u v w => BEq.trans
  obtain ⟨-, hs, hr, ht, -⟩ := deepEq_inherits_laws byteLength
  refine ⟨hsymm, hrefl, htrans, (hs hsymm).2 _ _, (hr hrefl).2 _, ?_⟩
  exact (ht htrans).2 _ (mixedArray "cd") _ (by decide) (by decide)

end ScalarRule

end Haystack
