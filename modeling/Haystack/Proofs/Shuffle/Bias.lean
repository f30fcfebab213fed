import Haystack.Proofs.Shuffle.Draws
import Mathlib.Data.Fintype.BigOperators
import Mathlib.Data.List.Permutation
import Mathlib.Data.Nat.Prime.Factorial

/-!
# A shuffle prefers some arrangements

Every arrangement of `n` items can come out of a shuffle. This file shows that from three items on they do
not come out equally often, not even if the draws are as even as draws can be, that is, if every script of
`2 * n` draws below `n` is taken once. The argument only counts.

* Every script leads to exactly one arrangement (`exists_outcome_eq`). So the scripts of the single
  arrangements add up to all `n ^ (2 * n)` scripts (`sum_card_scriptsTo`).
* There are `n !` arrangements of distinct items. If each had the same number of scripts, then `n !` would
  divide `n ^ (2 * n)`.
* It does not, as soon as `n - 1` has a prime factor: that factor divides `n !`, but no power of `n`, to
  which `n - 1` is prime (`not_factorial_dvd_pow`).
-/

namespace Haystack.Shuffle

open scoped Nat

variable {α : Type}

/-! ### Scripts in range -/

/-- **A script for `n` items**: two draws for each of the `n` passes, all of them in range. -/
abbrev Script (n : Nat) : Type := Fin (2 * n) → Fin n

/-- The source that gives the draws of a script. -/
def Script.source {n : Nat} (d : Script n) : Source :=
  .script (List.ofFn fun k => (d k : Nat)) 0

/-- There are `n ^ (2 * n)` scripts. -/
theorem Script.card (n : Nat) : Fintype.card (Script n) = n ^ (2 * n) := by
  rw [Fintype.card_fun, Fintype.card_fin, Fintype.card_fin]

/-- A script for `n` items is a source that never leaves the range of its positions. -/
theorem Script.inRange {n : Nat} (d : Script n) (times : Nat) :
    InRange Source.next n times d.source := by
  refine inRange_script (fun i hi => ?_) times
  obtain ⟨k, rfl⟩ := List.mem_ofFn.1 hi
  exact (d k).isLt

/-! ### Outcomes -/

/-- What a shuffle of `xs` gives if it is driven by a script. -/
def outcome (xs : List α) (d : Script xs.length) : Except BadSwap (List α) :=
  (list Source.next xs d.source).1

/-- **Every script brings the items into some order.** -/
theorem exists_outcome_eq (xs : List α) (d : Script xs.length) :
    ∃ ys, outcome xs d = .ok ys ∧ ys.Perm xs := by
  obtain ⟨ys, hys, hperm⟩ := list_of_inRange (d.inRange 1)
  exact ⟨ys, congrArg Prod.fst hys, hperm⟩

variable [DecidableEq α]

/-- **The scripts that bring items into a given order.** -/
def scriptsTo (xs ys : List α) : Finset (Script xs.length) :=
  Finset.univ.filter fun d => outcome xs d = .ok ys

/-- The orders of items, each of them once. -/
def arrangements (xs : List α) : Finset (List α) :=
  xs.permutations.toFinset

/-- The arrangements are the lists with the same items. -/
theorem mem_arrangements_iff {xs ys : List α} : ys ∈ arrangements xs ↔ ys.Perm xs := by
  rw [arrangements, List.mem_toFinset, List.mem_permutations]

/-- Distinct items have `n !` arrangements. -/
theorem card_arrangements {xs : List α} (hxs : xs.Nodup) : (arrangements xs).card = xs.length ! := by
  rw [arrangements, List.toFinset_card_of_nodup (List.nodup_permutations xs hxs),
    List.length_permutations]

/-- **Every script is counted for one arrangement**, and none is left over. -/
theorem sum_card_scriptsTo (xs : List α) :
    ∑ ys ∈ arrangements xs, (scriptsTo xs ys).card = xs.length ^ (2 * xs.length) := by
  -- every script has one of the arrangements for its outcome
  have hmaps : ∀ d ∈ (Finset.univ : Finset (Script xs.length)),
      outcome xs d ∈ (arrangements xs).image Except.ok := by
    intro d _
    obtain ⟨ys, hys, hperm⟩ := exists_outcome_eq xs d
    rw [Finset.mem_image]
    exact ⟨ys, mem_arrangements_iff.2 hperm, hys.symm⟩
  -- two arrangements are two outcomes, so no script is counted twice
  have hinj : Function.Injective (Except.ok : List α → Except BadSwap (List α)) :=
    fun _ _ => Except.ok.inj
  calc ∑ ys ∈ arrangements xs, (scriptsTo xs ys).card
      = ∑ o ∈ (arrangements xs).image Except.ok, (Finset.univ.filter fun d => outcome xs d = o).card := by
        rw [Finset.sum_image hinj.injOn]
        rfl
    _ = (Finset.univ : Finset (Script xs.length)).card :=
        (Finset.card_eq_sum_card_fiberwise hmaps).symm
    _ = xs.length ^ (2 * xs.length) := Script.card xs.length

/-- Two items are shuffled evenly still: each order has half of the scripts. -/
example : ∀ ys ∈ [['a', 'b'], ['b', 'a']], (scriptsTo ['a', 'b'] ys).card = 2 ^ 4 / 2 := by
  decide +kernel

/-! ### The count does not come out even -/

/-- **`n !` divides no power of `n`** if `n` is at least three: a prime factor of `n - 1` is in the
way. -/
theorem not_factorial_dvd_pow {n : Nat} (hn : 3 ≤ n) (m : Nat) : ¬n ! ∣ n ^ m := by
  intro hdvd
  obtain ⟨p, hp, hpred⟩ := Nat.exists_prime_and_dvd (show n - 1 ≠ 1 by omega)
  -- the prime factor is at most `n`, so it divides `n !` and with it the power
  have hle : p ≤ n := (Nat.le_of_dvd (by omega) hpred).trans (Nat.sub_le n 1)
  have hpow : p ∣ n ^ m := (hp.dvd_factorial.2 hle).trans hdvd
  -- a prime that divides `n` and `n - 1` would divide `1`
  have hone : p ∣ n - (n - 1) := Nat.dvd_sub (hp.dvd_of_dvd_pow hpow) hpred
  rw [Nat.sub_sub_self (by omega)] at hone
  exact hp.one_lt.ne' (Nat.dvd_one.1 hone)

/-- **Some arrangements come out more often than others**, from three items on. The scripts of all `n !`
arrangements of `n` distinct items make up the `n ^ (2 * n)` scripts that there are, but there are two
arrangements of which one has fewer scripts than the other. -/
theorem some_arrangements_more_often {xs : List α} (hxs : xs.Nodup) (hlength : 3 ≤ xs.length) :
    (arrangements xs).card = xs.length !
      ∧ Fintype.card (Script xs.length) = xs.length ^ (2 * xs.length)
      ∧ ∑ ys ∈ arrangements xs, (scriptsTo xs ys).card = xs.length ^ (2 * xs.length)
      ∧ ∃ ys zs, ys.Perm xs ∧ zs.Perm xs ∧ (scriptsTo xs ys).card < (scriptsTo xs zs).card := by
  refine ⟨card_arrangements hxs, Script.card _, sum_card_scriptsTo xs, ?_⟩
  by_contra hnone
  push Not at hnone
  -- then all arrangements have as many scripts as the one that changes nothing
  have hsame : ∀ ys ∈ arrangements xs, (scriptsTo xs ys).card = (scriptsTo xs xs).card := by
    intro ys hys
    have hperm := mem_arrangements_iff.1 hys
    exact le_antisymm (hnone xs ys (List.Perm.refl xs) hperm) (hnone ys xs hperm (List.Perm.refl xs))
  -- and `n !` equal counts would make up a multiple of `n !`
  have hproduct : xs.length ^ (2 * xs.length) = xs.length ! * (scriptsTo xs xs).card :=
    calc xs.length ^ (2 * xs.length)
        = ∑ ys ∈ arrangements xs, (scriptsTo xs ys).card := (sum_card_scriptsTo xs).symm
      _ = (arrangements xs).card * (scriptsTo xs xs).card := Finset.sum_const_nat hsame
      _ = xs.length ! * (scriptsTo xs xs).card := by rw [card_arrangements hxs]
  exact not_factorial_dvd_pow hlength _ ⟨_, hproduct⟩

/-- The six arrangements of three items share the `729` scripts unevenly. -/
theorem some_arrangements_more_often_three :
    ['a', 'b', 'c'].Nodup ∧ 3 ≤ ['a', 'b', 'c'].length
      ∧ ∃ ys zs, ys.Perm ['a', 'b', 'c'] ∧ zs.Perm ['a', 'b', 'c']
        ∧ (scriptsTo ['a', 'b', 'c'] ys).card < (scriptsTo ['a', 'b', 'c'] zs).card := by
  have hxs : ['a', 'b', 'c'].Nodup := by decide
  have hlength : 3 ≤ ['a', 'b', 'c'].length := by decide
  exact ⟨hxs, hlength, (some_arrangements_more_often hxs hlength).2.2.2⟩

end Haystack.Shuffle
