import Haystack.Proofs.Digest.Polynomial
import Mathlib.RingTheory.ZMod.UnitsCyclic

/-!
# Items in front that contribute nothing

A null contributes `0` to a hash, and so does the zero of an integral kind. In front of all other items
such a contribution might seem to be lost, as a leading zero is in a number. It is not lost, because the
fold begins at a seed: **every zero in front multiplies the seed once more**, and whatever follows keeps
apart what was apart by then (`resume_injective`).

So everything hangs on when a power of the multiplier is `1` modulo `2 ^ 32`. The multiplier is `1` more
than an odd multiple of `4`, and the order of such a number modulo `2 ^ (n + 2)` is `2 ^ n`, which makes it
`2 ^ 30` here (`multiplier_pow_modEq_one_iff`). The seed is odd and can be cancelled. Hence zeros in front
are seen by the hash unless there are `2 ^ 30` of them, or a multiple of that.
-/

namespace Haystack

namespace Digest

/-! ### Powers of the multiplier -/

/-- **The powers of the multiplier come back to `1` after every `2 ^ 30` factors**, and not before. -/
theorem multiplier_pow_modEq_one_iff (n : Nat) : (37 : Int) ^ n ≡ 1 [ZMOD 2 ^ 32] ↔ 2 ^ 30 ∣ n := by
  -- `37` is `1 + 4 * 9` with an odd `9`, whose order modulo a power of two is known
  have horder : orderOf (37 : ZMod (2 ^ 32)) = 2 ^ 30 := by
    have hnine := ZMod.orderOf_one_add_four_mul 9 (by decide) 30
    norm_num at hnine ⊢
    exact hnine
  calc (37 : Int) ^ n ≡ 1 [ZMOD 2 ^ 32]
      ↔ (((37 : Int) ^ n : Int) : ZMod (2 ^ 32)) = ((1 : Int) : ZMod (2 ^ 32)) :=
        (ZMod.intCast_eq_intCast_iff _ _ (2 ^ 32)).symm
    _ ↔ (37 : ZMod (2 ^ 32)) ^ n = 1 := by push_cast; rfl
    _ ↔ 2 ^ 30 ∣ n := by rw [← orderOf_dvd_iff_pow_eq_one, horder]

/-- The seed is odd, so it does not change when a power of the multiplier does what `1` does. -/
theorem seed_mul_modEq_iff (x : Int) : 17 * x ≡ 17 * 1 [ZMOD 2 ^ 32] ↔ x ≡ 1 [ZMOD 2 ^ 32] := by
  constructor
  · intro h
    -- `17` shares no factor with `2 ^ 32`
    have hcancelled := Int.ModEq.cancel_left_div_gcd (by norm_num) h
    norm_num at hcancelled ⊢
    exact hcancelled
  · intro h
    exact h.mul_left 17

/-! ### Zeros in front -/

/-- Zeros multiply the start, once each. -/
theorem polynomial_replicate_zero (start : Int) (n : Nat) :
    polynomial start (List.replicate n 0) = start * 37 ^ n := by
  induction n generalizing start with
  | zero =>
    rw [List.replicate_zero, polynomial_nil]
    ring
  | succ n ih =>
    -- one zero in front is one step of the start, and the start is multiplied
    have hzero : (0 : Int32).toInt = 0 := rfl
    rw [List.replicate_succ, polynomial_cons, ih, hzero]
    ring

/-- **Zeros alone** lead back to the seed exactly if a multiple of `2 ^ 30` of them is taken in. -/
theorem ofContributions_zeros_eq_seed_iff (n : Nat) :
    ofContributions (List.replicate n 0) = seed ↔ 2 ^ 30 ∣ n := by
  -- the hash agrees with the seed, multiplied once for every zero
  have hzeros : (ofContributions (List.replicate n 0)).toInt ≡ 17 * 37 ^ n [ZMOD 2 ^ 32] := by
    rw [← polynomial_replicate_zero]
    exact toInt_ofContributions_modEq _
  calc ofContributions (List.replicate n 0) = seed
      ↔ (ofContributions (List.replicate n 0)).toInt ≡ 17 * 1 [ZMOD 2 ^ 32] := eq_iff_toInt_modEq
    _ ↔ 17 * 37 ^ n ≡ 17 * 1 [ZMOD 2 ^ 32] := ⟨hzeros.symm.trans, hzeros.trans⟩
    _ ↔ (37 : Int) ^ n ≡ 1 [ZMOD 2 ^ 32] := seed_mul_modEq_iff _
    _ ↔ 2 ^ 30 ∣ n := multiplier_pow_modEq_one_iff n

/-- **Zeros in front of other contributions** hide under the same condition: from there on the two folds
take the same steps, and these can be undone. -/
theorem ofContributions_zeros_append_eq_iff (n : Nat) (cs : List Int32) :
    ofContributions (List.replicate n 0 ++ cs) = ofContributions cs ↔ 2 ^ 30 ∣ n := by
  rw [ofContributions_append]
  exact (resume_injective cs).eq_iff.trans (ofContributions_zeros_eq_seed_iff n)

/-- **A hash of lists shows padding** with an item in front: however much of it there is, and whatever it
stands in front of, the hash is another one, unless a multiple of `2 ^ 30` items was put there. -/
def ShowsPadding {β : Type} (hash : List β → Int32) (pad : β) : Prop :=
  ∀ (n : Nat) (xs : List β), hash (List.replicate n pad ++ xs) = hash xs ↔ 2 ^ 30 ∣ n

/-- Padding shows in the fold of what items contribute, even if its own contribution is `0`. -/
theorem showsPadding_of_contribution_eq_zero {β : Type} {contribution : β → Int32} {pad : β}
    (hpad : contribution pad = 0) :
    ShowsPadding (fun xs => ofContributions (xs.map contribution)) pad := by
  intro n xs
  show ofContributions ((List.replicate n pad ++ xs).map contribution)
      = ofContributions (xs.map contribution) ↔ 2 ^ 30 ∣ n
  rw [List.map_append, List.map_replicate, hpad]
  exact ofContributions_zeros_append_eq_iff n _

end Digest

/-! ### Arrays -/

namespace ScalarRule

variable {α : Type}

/-- In flat arrays, padding shows whose items contribute `0`. -/
theorem showsPadding_flat (r : ScalarRule α) {k : FlatKind} {pad : k.Item}
    (hpad : k.contribution pad = 0) :
    Digest.ShowsPadding (fun xs => r.structuralHashArray (.flat ⟨k, xs⟩)) pad := by
  simp only [structuralHashArray_eq]
  exact Digest.showsPadding_of_contribution_eq_zero hpad

/-- **Nulls in front show in the hash.** Under every rule, `n` nulls in front of an array of references
leave its hash as it is exactly if `n` is a multiple of `2 ^ 30`, and so do `n` zeros in front of an array
of an integral kind. -/
theorem leading_nulls_show (r : ScalarRule α) :
    Digest.ShowsPadding (fun xs => r.structuralHashArray (.reference xs)) .null
      ∧ Digest.ShowsPadding (fun xs => r.structuralHashArray (.flat ⟨.int64, xs⟩)) (0 : Int64)
      ∧ Digest.ShowsPadding (fun xs => r.structuralHashArray (.flat ⟨.int32, xs⟩)) (0 : Int32)
      ∧ Digest.ShowsPadding (fun xs => r.structuralHashArray (.flat ⟨.int16, xs⟩)) (0 : Int16)
      ∧ Digest.ShowsPadding (fun xs => r.structuralHashArray (.flat ⟨.int8, xs⟩)) (0 : Int8) := by
  refine ⟨?_, r.showsPadding_flat rfl, r.showsPadding_flat rfl, r.showsPadding_flat rfl,
    r.showsPadding_flat rfl⟩
  -- a null is the item of a reference array that contributes nothing
  have hnull : r.structuralHash .null = 0 := by
    unfold structuralHash
    rw [Element.structuralHash]
    rfl
  simp only [structuralHashArray_eq]
  exact Digest.showsPadding_of_contribution_eq_zero hnull

end ScalarRule

end Haystack
