import Haystack.Proofs.Digest.Fold
import Haystack.Proofs.Value.Element
import Mathlib.Algebra.BigOperators.Fin
import Mathlib.Data.Int.ModEq
import Mathlib.Tactic.Ring

/-!
# A hash is the value of a polynomial

The fold of a hash wraps twice in every step, once behind the multiplication and once behind the addition,
and its words are signed. None of this is visible in the end: **wrapping drops multiples of `2 ^ 32`**, and
a multiple that is dropped early is a multiple still after all further steps. So a hash is the exact value
of a polynomial in the multiplier, whose coefficients are the contributions, reduced once.

* `polynomial` is that value, from any start, in the integers. A contribution at the front is a step of the
  start (`polynomial_cons`), and a start matters by the highest power alone (`polynomial_eq_add`).
* `toInt_resume_modEq` — the fold that wraps agrees with the polynomial modulo `2 ^ 32`, by induction
  along the contributions. The representative is the signed one (`toInt_ofContributions`).
* `toInt_ofContributions_append` — the hash of two sequences one behind the other can be told from the two
  hashes and the length of the second sequence.
* `ScalarRule.hash_is_polynomial` says both of arrays: those of a flat kind, and those of references, to
  which nested arrays contribute their own hashes.
-/

namespace Haystack

namespace Digest

/-! ### The exact value -/

/-- **The exact value of the fold** of contributions that begins at `start`, with nothing dropped. -/
def polynomial (start : Int) (cs : List Int32) : Int :=
  start * 37 ^ cs.length + ∑ i : Fin cs.length, cs[i].toInt * 37 ^ (cs.length - 1 - i)

/-- Without contributions the fold stays at its start. -/
@[simp] theorem polynomial_nil (start : Int) : polynomial start [] = start := by
  simp [polynomial]

/-- A contribution at the front is a step that the start makes. -/
theorem polynomial_cons (start : Int) (c : Int32) (cs : List Int32) :
    polynomial start (c :: cs) = polynomial (start * 37 + c.toInt) cs := by
  -- of the sum the first contribution is split off, which has the highest power
  have hfront : ∑ i : Fin (cs.length + 1), (c :: cs)[i].toInt * 37 ^ (cs.length + 1 - 1 - i)
      = c.toInt * 37 ^ cs.length + ∑ i : Fin cs.length, cs[i].toInt * 37 ^ (cs.length - 1 - i) := by
    rw [Fin.sum_univ_succ]
    refine congrArg₂ (· + ·) rfl (Finset.sum_congr rfl fun i _ => ?_)
    -- the power of a later contribution is the same, counted from one place further on
    have hpower : cs.length + 1 - 1 - i.succ = cs.length - 1 - i := by
      rw [Fin.val_succ]
      omega
    rw [hpower]
    rfl
  calc polynomial start (c :: cs)
      = start * 37 ^ (cs.length + 1)
          + ∑ i : Fin (cs.length + 1), (c :: cs)[i].toInt * 37 ^ (cs.length + 1 - 1 - i) := rfl
    _ = (start * 37 + c.toInt) * 37 ^ cs.length
          + ∑ i : Fin cs.length, cs[i].toInt * 37 ^ (cs.length - 1 - i) := by
        rw [hfront]
        ring
    _ = polynomial (start * 37 + c.toInt) cs := rfl

/-- Another start changes the highest power and nothing else. -/
theorem polynomial_eq_add (start other : Int) (cs : List Int32) :
    polynomial start cs = polynomial other cs + (start - other) * 37 ^ cs.length := by
  unfold polynomial
  ring

/-- Starts that are the same modulo a number lead to the same modulo that number. -/
theorem polynomial_modEq {m g h : Int} (hgh : g ≡ h [ZMOD m]) (cs : List Int32) :
    polynomial g cs ≡ polynomial h cs [ZMOD m] :=
  (hgh.mul_right _).add_right _

/-! ### Words of 32 bits as residues -/

/-- A signed reduction drops a multiple of `2 ^ 32`. -/
theorem bmod_modEq (x : Int) : x.bmod (2 ^ 32) ≡ x [ZMOD 2 ^ 32] :=
  Int.bmod_emod

/-- **A word is the signed reduction of every integer that it agrees with.** -/
theorem toInt_eq_bmod {h : Int32} {x : Int} (hx : h.toInt ≡ x [ZMOD 2 ^ 32]) :
    h.toInt = x.bmod (2 ^ 32) :=
  calc h.toInt = h.toInt.bmod (2 ^ 32) := (Int32.toInt_bmod h).symm
    _ = (h.toInt % 2 ^ 32).bmod (2 ^ 32) := (Int.emod_bmod _ (2 ^ 32)).symm
    _ = (x % 2 ^ 32).bmod (2 ^ 32) := congrArg (Int.bmod · (2 ^ 32)) hx
    _ = x.bmod (2 ^ 32) := Int.emod_bmod x (2 ^ 32)

/-- Words that agree as integers are the same word. -/
theorem eq_iff_toInt_modEq {g h : Int32} : g = h ↔ g.toInt ≡ h.toInt [ZMOD 2 ^ 32] := by
  constructor
  · rintro rfl
    exact Int.ModEq.refl _
  · intro hgh
    have hword : g.toInt = h.toInt := (toInt_eq_bmod hgh).trans (Int32.toInt_bmod h)
    exact Int32.toInt_inj.1 hword

/-! ### The fold that wraps -/

/-- **One step**: it wraps twice, and agrees with the exact step. -/
theorem toInt_step_modEq (h c : Int32) :
    (h * multiplier + c).toInt ≡ h.toInt * 37 + c.toInt [ZMOD 2 ^ 32] := by
  rw [Int32.toInt_add, Int32.toInt_mul]
  have hproduct : (h.toInt * multiplier.toInt).bmod (2 ^ 32) ≡ h.toInt * 37 [ZMOD 2 ^ 32] :=
    bmod_modEq _
  exact (bmod_modEq _).trans (hproduct.add_right _)

/-- **All steps.** The induction is on the contributions: the first step agrees with the exact one, and
from starts that agree the exact polynomials agree. -/
theorem toInt_resume_modEq (h : Int32) (cs : List Int32) :
    (resume h cs).toInt ≡ polynomial h.toInt cs [ZMOD 2 ^ 32] := by
  induction cs generalizing h with
  | nil =>
    rw [polynomial_nil]
    exact Int.ModEq.refl _
  | cons c cs ih =>
    -- both sides take the first contribution into the start
    rw [resume_cons, polynomial_cons]
    exact (ih _).trans (polynomial_modEq (toInt_step_modEq h c) cs)

/-- A hash agrees with the polynomial from the seed modulo `2 ^ 32`. -/
theorem toInt_ofContributions_modEq (cs : List Int32) :
    (ofContributions cs).toInt ≡ polynomial 17 cs [ZMOD 2 ^ 32] :=
  toInt_resume_modEq seed cs

/-- **The hash of a sequence is the signed reduction of its polynomial.** -/
theorem toInt_ofContributions (cs : List Int32) :
    (ofContributions cs).toInt = (polynomial 17 cs).bmod (2 ^ 32) :=
  toInt_eq_bmod (toInt_ofContributions_modEq cs)

/-! ### Two sequences one behind the other -/

/-- What two hashes make together, the second one being that of `n` contributions. Both have gone through
a seed, and the one of the second sequence is taken out. -/
def joined (first second : Int32) (n : Nat) : Int :=
  first.toInt * 37 ^ n + second.toInt - 17 * 37 ^ n

/-- **The hash of two sequences one behind the other** comes from the two hashes. -/
theorem toInt_ofContributions_append (cs ds : List Int32) :
    (ofContributions (cs ++ ds)).toInt
      ≡ joined (ofContributions cs) (ofContributions ds) ds.length [ZMOD 2 ^ 32] := by
  -- the second sequence goes on from the hash of the first instead of from the seed
  have hexact : polynomial (ofContributions cs).toInt ds
      = (ofContributions cs).toInt * 37 ^ ds.length + polynomial 17 ds - 17 * 37 ^ ds.length := by
    rw [polynomial_eq_add _ 17]
    ring
  have hsecond : (ofContributions ds).toInt ≡ polynomial 17 ds [ZMOD 2 ^ 32] :=
    toInt_ofContributions_modEq ds
  calc (ofContributions (cs ++ ds)).toInt
      = (resume (ofContributions cs) ds).toInt := by rw [ofContributions_append]
    _ ≡ polynomial (ofContributions cs).toInt ds [ZMOD 2 ^ 32] := toInt_resume_modEq _ ds
    _ = (ofContributions cs).toInt * 37 ^ ds.length + polynomial 17 ds - 17 * 37 ^ ds.length := hexact
    _ ≡ joined (ofContributions cs) (ofContributions ds) ds.length [ZMOD 2 ^ 32] :=
        (hsecond.symm.add_left _).sub_right _

end Digest

/-! ### Arrays -/

namespace ScalarRule

variable {α : Type}

/-- **What the items of an array contribute to its hash.** A reference contributes its own hash, be it that
of an opaque value or of an array. -/
def contributions (r : ScalarRule α) : ElementArray α → List Int32
  | .flat a => a.items.map a.kind.contribution
  | .reference xs => xs.map r.structuralHash

/-- **The hash of an array is the fold of what its items contribute.** -/
theorem structuralHashArray_eq (r : ScalarRule α) (a : ElementArray α) :
    r.structuralHashArray a = Digest.ofContributions (r.contributions a) := by
  rcases a with a | xs
  · -- of items without a hash of their own the kind says what they contribute
    unfold structuralHashArray
    rw [Element.structuralHashArray]
    rfl
  · -- of references the hash is that of the array as an element
    exact (Element.structuralHash_array r.hash _).symm.trans (Element.structuralHash_reference r.hash xs)

/-- **A hash is a polynomial in the multiplier, and knows no overflow.** The hash of contributions is the
signed reduction of the integer that the exact fold from `17` gives, however often it wraps on the way.
Hence the hash of a sequence in two parts is determined, modulo `2 ^ 32`, by the hashes of the parts and
the length of the second one. Arrays of every kind are hashed so, those of references by the hashes of
what stands in them. -/
theorem hash_is_polynomial (α : Type) :
    (∀ cs : List Int32, (Digest.ofContributions cs).toInt = (Digest.polynomial 17 cs).bmod (2 ^ 32))
      ∧ (∀ cs ds : List Int32, (Digest.ofContributions (cs ++ ds)).toInt
          ≡ Digest.joined (Digest.ofContributions cs) (Digest.ofContributions ds) ds.length
            [ZMOD 2 ^ 32])
      ∧ ∀ r : ScalarRule α,
        (∀ a : ElementArray α, (r.structuralHashArray a).toInt
            = (Digest.polynomial 17 (r.contributions a)).bmod (2 ^ 32))
          ∧ (∀ (k : FlatKind) (xs ys : List k.Item), (r.structuralHashArray (.flat ⟨k, xs ++ ys⟩)).toInt
            ≡ Digest.joined (r.structuralHashArray (.flat ⟨k, xs⟩))
              (r.structuralHashArray (.flat ⟨k, ys⟩)) ys.length [ZMOD 2 ^ 32])
          ∧ ∀ xs ys : List (Element α), (r.structuralHashArray (.reference (xs ++ ys))).toInt
            ≡ Digest.joined (r.structuralHashArray (.reference xs))
              (r.structuralHashArray (.reference ys)) ys.length [ZMOD 2 ^ 32] := by
  refine ⟨Digest.toInt_ofContributions, Digest.toInt_ofContributions_append, fun r => ?_⟩
  simp only [structuralHashArray_eq]
  refine ⟨fun a => Digest.toInt_ofContributions _, fun k xs ys => ?_, fun xs ys => ?_⟩
  · -- two flat arrays one behind the other contribute one behind the other
    have hparts := Digest.toInt_ofContributions_append (xs.map k.contribution) (ys.map k.contribution)
    rw [← List.map_append, List.length_map] at hparts
    exact hparts
  · -- and so do arrays of references
    have hparts := Digest.toInt_ofContributions_append (xs.map r.structuralHash)
      (ys.map r.structuralHash)
    rw [← List.map_append, List.length_map] at hparts
    exact hparts

end ScalarRule

end Haystack
