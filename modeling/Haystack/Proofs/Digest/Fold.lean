import Haystack.Digest.Fold
import Mathlib.Data.List.Basic
import Mathlib.Logic.Function.Basic

/-!
# A folding hash forgets no contribution

Every step of the fold multiplies what there is before it adds the next contribution, and wraps at 32
bits, so a contribution at the front of a long sequence goes through many multiplications until the hash
is done. Nothing of it is lost on the way: the multiplier is odd, hence it has an inverse
(`multiplier_mul_inverse`), and every step can be undone.

* `resume_injective` — a fold that goes on with given contributions tells apart where it began, by
  induction along the contributions.
* `ofContributions_set_eq_iff` — of two sequences that differ at one position, the hashes are equal
  exactly if the contributions at that position are.
-/

namespace Haystack.Digest

/-! ### One step -/

/-- What undoes a multiplication with the multiplier, modulo `2 ^ 32`. -/
def inverse : Int32 := -1857283155

/-- The two words cancel. -/
theorem multiplier_mul_inverse : multiplier * inverse = 1 := by
  decide

/-- **A multiplication with the multiplier can be undone**, wrapping and all. -/
theorem mul_multiplier_injective : Function.Injective (· * multiplier) := by
  intro g h hgh
  calc g = g * (multiplier * inverse) := by rw [multiplier_mul_inverse, Int32.mul_one]
    _ = g * multiplier * inverse := (Int32.mul_assoc ..).symm
    _ = h * multiplier * inverse := congrArg (· * inverse) hgh
    _ = h * (multiplier * inverse) := Int32.mul_assoc ..
    _ = h := by rw [multiplier_mul_inverse, Int32.mul_one]

/-! ### Many steps -/

/-- **The hash that goes on from `h`** with the contributions of a sequence. -/
def resume (h : Int32) (cs : List Int32) : Int32 :=
  cs.foldl (fun h c => h * multiplier + c) h

/-- The first contribution is one step. -/
theorem resume_cons (h c : Int32) (cs : List Int32) :
    resume h (c :: cs) = resume (h * multiplier + c) cs := rfl

/-- The hash of a sequence goes on with its second part where the first part has led to. -/
theorem ofContributions_append (cs ds : List Int32) :
    ofContributions (cs ++ ds) = resume (ofContributions cs) ds := by
  unfold ofContributions resume
  exact List.foldl_append

/-- **Going on with the same contributions keeps apart what was apart.** The induction is on the
contributions, each of which takes one step that can be undone. -/
theorem resume_injective (cs : List Int32) : Function.Injective (resume · cs) := by
  induction cs with
  | nil => exact Function.injective_id
  | cons c cs ih =>
    intro g h hgh
    -- the rest of the contributions keeps apart what the first step leads to, and that step can be undone
    have hstep : g * multiplier + c = h * multiplier + c := ih hgh
    exact mul_multiplier_injective ((Int32.add_left_inj c).1 hstep)

/-- **A contribution can be told from the hash** if all the others are known. -/
theorem ofContributions_append_cons_inj {cs ds : List Int32} {c d : Int32} :
    ofContributions (cs ++ c :: ds) = ofContributions (cs ++ d :: ds) ↔ c = d := by
  constructor
  · intro h
    rw [ofContributions_append, ofContributions_append, resume_cons, resume_cons] at h
    -- behind the position the two go on alike, so they were the same when they had passed it
    have hpassed := resume_injective ds h
    exact (Int32.add_right_inj _).1 hpassed
  · rintro rfl
    rfl

/-- **Two sequences that differ at one position** have the same hash exactly if they do not differ
there. -/
theorem ofContributions_set_eq_iff {cs : List Int32} {i : Nat} (hi : i < cs.length) {c d : Int32} :
    ofContributions (cs.set i c) = ofContributions (cs.set i d) ↔ c = d := by
  -- the position splits the sequence, with the same contributions on either side
  rw [List.set_eq_take_append_cons_drop, List.set_eq_take_append_cons_drop, if_pos hi, if_pos hi]
  exact ofContributions_append_cons_inj

end Haystack.Digest
