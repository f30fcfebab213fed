import Haystack.Proofs.Shuffle.Draws
import Mathlib.Logic.Equiv.Fin.Basic

/-!
# A shuffle can bring about every arrangement

A shuffle of `n` items makes `n` passes, and each of them can exchange any two positions or leave the
items alone. That is enough for every permutation of `n` positions. **One pass settles one position**:
the exchange of the last position with the one where its item comes from leaves a permutation of the
positions before it, and the induction goes on with these (`exists_exchanges_eq`). A permutation that
needs fewer exchanges is brought about all the same, as an exchange of a position with itself is a pass
with two equal draws.

What is left is to read the exchanges off a script. A script of two draws for each pass gives the passes
one pair after the other (`pairAt_scriptOf`), so its arrangement is the product of the exchanges.
-/

namespace Haystack.Shuffle

variable {α : Type}

/-! ### Permutations as exchanges -/

/-- The exchanges of pairs of positions, multiplied in order. -/
def exchanges (pairs : List (Nat × Nat)) : Equiv.Perm Nat :=
  (pairs.map fun p => Equiv.swap p.1 p.2).prod

/-- **A permutation of `n` positions is the product of `n` exchanges** of two of them, or of one with
itself. The first exchange puts the last position in order, and the others are those of the induction. -/
theorem exists_exchanges_eq (n : Nat) (π : Equiv.Perm Nat) (hπ : ∀ k, n ≤ k → π k = k) :
    ∃ pairs, pairs.length = n ∧ (∀ p ∈ pairs, p.1 < n ∧ p.2 < n) ∧ exchanges pairs = π := by
  induction n generalizing π with
  | zero =>
    refine ⟨[], rfl, fun p hp => absurd hp List.not_mem_nil, Equiv.ext fun k => ?_⟩
    exact (hπ k (Nat.zero_le k)).symm
  | succ n ih =>
    -- the image of the last position is in range, as everything out of range is its own image
    have hlast : π n < n + 1 := by
      by_contra hout
      have himage := π.injective (hπ (π n) (Nat.not_lt.1 hout))
      omega
    -- with the last position in order, the others are permuted among themselves
    have hrest : ∀ k, n ≤ k → (Equiv.swap n (π n) * π) k = k := by
      intro k hk
      rw [Equiv.Perm.mul_apply]
      rcases Nat.eq_or_lt_of_le hk with rfl | hlt
      · exact Equiv.swap_apply_right n (π n)
      · rw [hπ k hlt]
        exact Equiv.swap_apply_of_ne_of_ne (by omega) (by omega)
    obtain ⟨pairs, hlength, hrange, hprod⟩ := ih _ hrest
    refine ⟨(n, π n) :: pairs, by rw [List.length_cons, hlength], ?_, ?_⟩
    · intro p hp
      rcases List.mem_cons.1 hp with rfl | hp
      · exact ⟨Nat.lt_succ_self n, hlast⟩
      · obtain ⟨hfirst, hsecond⟩ := hrange p hp
        exact ⟨Nat.lt_succ_of_lt hfirst, Nat.lt_succ_of_lt hsecond⟩
    · -- the first exchange undoes what was put in front of the permutation
      rw [exchanges, List.map_cons, List.prod_cons, ← exchanges, hprod, ← mul_assoc,
        Equiv.swap_mul_self, one_mul]

/-! ### Scripts of pairs -/

/-- The script that draws pairs of positions, one after the other. -/
def scriptOf (pairs : List (Nat × Nat)) : List Nat :=
  pairs.flatMap fun p => [p.1, p.2]

/-- The first pair is drawn first. -/
theorem scriptOf_cons (p : Nat × Nat) (pairs : List (Nat × Nat)) :
    scriptOf (p :: pairs) = p.1 :: p.2 :: scriptOf pairs := rfl

/-- A script has two draws for each pair. -/
theorem length_scriptOf (pairs : List (Nat × Nat)) : (scriptOf pairs).length = 2 * pairs.length := by
  induction pairs with
  | nil => rfl
  | cons p pairs ih =>
    rw [scriptOf_cons, List.length_cons, List.length_cons, List.length_cons, ih]
    omega

/-- Every draw belongs to a pair. -/
theorem mem_scriptOf {pairs : List (Nat × Nat)} {i : Nat} (h : i ∈ scriptOf pairs) :
    ∃ p ∈ pairs, i = p.1 ∨ i = p.2 := by
  obtain ⟨p, hp, hi⟩ := List.mem_flatMap.1 h
  exact ⟨p, hp, by simpa using hi⟩

/-- Pair `k` of a script stands at the draws `2 * k` and `2 * k + 1`. -/
theorem getElem?_scriptOf {pairs : List (Nat × Nat)} {k : Nat} {p : Nat × Nat}
    (h : pairs[k]? = some p) :
    (scriptOf pairs)[2 * k]? = some p.1 ∧ (scriptOf pairs)[2 * k + 1]? = some p.2 := by
  induction pairs generalizing k with
  | nil => cases h
  | cons q pairs ih =>
    cases k with
    | zero =>
      cases h
      exact ⟨rfl, rfl⟩
    | succ k => exact ih h

section Script

variable (bound : Nat) (draws : List Nat)

/-- Every pass takes two draws of a script. -/
theorem afterPass_script (n given : Nat) :
    (afterPass Source.next bound)^[n] (.script draws given) = .script draws (given + 2 * n) := by
  rw [afterPass_iterate, afterDraws_script]

/-- **A script of pairs gives pass `k` the pair `k`**, whatever the bound. -/
theorem pairAt_scriptOf {pairs : List (Nat × Nat)} {k : Nat} {p : Nat × Nat}
    (h : pairs[k]? = some p) : pairAt Source.next bound (.script (scriptOf pairs) 0) k = p := by
  obtain ⟨hfirst, hsecond⟩ := getElem?_scriptOf h
  obtain ⟨hk, -⟩ := List.getElem?_eq_some_iff.1 h
  have hlength := length_scriptOf pairs
  -- the script is long enough for its draws not to begin anew
  rw [pairAt_eq_draws, drawAt_script, drawAt_script, Nat.mod_eq_of_lt (by omega),
    Nat.mod_eq_of_lt (by omega), List.getD_eq_getElem?_getD, List.getD_eq_getElem?_getD, hfirst,
    hsecond]
  rfl

/-- The arrangement of a script of pairs is the product of their exchanges. -/
theorem arrangement_scriptOf (pairs : List (Nat × Nat)) :
    arrangement Source.next bound (.script (scriptOf pairs) 0) pairs.length = exchanges pairs := by
  rw [arrangement, exchanges]
  congr 1
  refine List.ext_getElem (by simp) fun k hk _ => ?_
  rw [List.length_map, List.length_range] at hk
  rw [List.getElem_map, List.getElem_map, List.getElem_range,
    pairAt_scriptOf bound (List.getElem?_eq_getElem hk)]

end Script

/-! ### All arrangements -/

/-- **A script of pairs in range makes their exchanges**, and all of its draws are used, once each. -/
theorem passes_scriptOf {pairs : List (Nat × Nat)} (xs : List α)
    (hlength : pairs.length = xs.length)
    (hrange : ∀ p ∈ pairs, p.1 < xs.length ∧ p.2 < xs.length) :
    ∃ ys, passes Source.next xs.length xs.length xs (.script (scriptOf pairs) 0)
        = (.ok ys, .script (scriptOf pairs) (2 * xs.length))
      ∧ Rearranged (exchanges pairs) xs ys := by
  -- the pairs are in range, so every pass is harmless
  have hharmless : ∀ k < xs.length,
      Harmless xs.length (pairAt Source.next xs.length (.script (scriptOf pairs) 0) k) := by
    intro k hk
    rw [← hlength] at hk
    rw [pairAt_scriptOf _ (List.getElem?_eq_getElem hk)]
    exact .inr (hrange _ (List.getElem_mem hk))
  obtain ⟨ys, hys, hrearranged⟩ := passes_of_harmless Source.next xs.length hharmless
  rw [afterPass_script, Nat.zero_add] at hys
  rw [← hlength, arrangement_scriptOf] at hrearranged
  exact ⟨ys, hys, hrearranged⟩

/-- A rearrangement of listed items, along a permutation of their positions that is the identity beyond
them, is the list of the items in the new order. -/
theorem eq_ofFn_of_rearranged {n : Nat} {π : Equiv.Perm (Fin n)} {f : Fin n → α} {ys : List α}
    (h : Rearranged (π.extendDomain Fin.equivSubtype) (List.ofFn f) ys) : ys = List.ofFn (f ∘ π) := by
  refine List.ext_getElem? fun k => ?_
  rw [h.getElem?_eq]
  by_cases hk : k < n
  · -- in range the positions are permuted as the list is
    have himage : π.extendDomain Fin.equivSubtype k = π ⟨k, hk⟩ :=
      Equiv.Perm.extendDomain_apply_image π Fin.equivSubtype ⟨k, hk⟩
    rw [himage, List.getElem?_ofFn, List.getElem?_ofFn, dif_pos (π ⟨k, hk⟩).isLt, dif_pos hk]
    rfl
  · -- out of range there is no item on either side
    have himage : π.extendDomain Fin.equivSubtype k = k :=
      Equiv.Perm.extendDomain_apply_not_subtype π Fin.equivSubtype hk
    rw [himage, List.getElem?_ofFn, List.getElem?_ofFn, dif_neg hk, dif_neg hk]

/-- **Every arrangement is reachable.** For every permutation of `n` positions there is a script of two
draws for each of the `n` passes, all of them below `n`, under which a shuffle puts any `n` items into
that order. Where there is something to shuffle, it uses each draw of the script once. -/
theorem every_arrangement_reachable (n : Nat) (π : Equiv.Perm (Fin n)) :
    ∃ draws : List Nat, draws.length = 2 * n ∧ (∀ i ∈ draws, i < n)
      ∧ ∀ {α : Type} (f : Fin n → α), list Source.next (List.ofFn f) (.script draws 0)
        = (.ok (List.ofFn (f ∘ π)), .script draws (if n ≤ 1 then 0 else 2 * n)) := by
  obtain ⟨pairs, hlength, hrange, hprod⟩ :=
    exists_exchanges_eq n (π.extendDomain Fin.equivSubtype) fun k hk =>
      Equiv.Perm.extendDomain_apply_not_subtype π Fin.equivSubtype (Nat.not_lt.2 hk)
  refine ⟨scriptOf pairs, by rw [length_scriptOf, hlength], fun i hi => ?_, fun f => ?_⟩
  · -- the draws are the positions of the exchanges
    obtain ⟨p, hp, rfl | rfl⟩ := mem_scriptOf hi
    · exact (hrange p hp).1
    · exact (hrange p hp).2
  · rw [list, List.length_ofFn]
    split
    · next hn =>
      -- at most one position, which every permutation leaves where it is
      have : Subsingleton (Fin n) := Fin.subsingleton_iff_le_one.2 hn
      rw [Subsingleton.elim π 1]
      rfl
    · have hxs : (List.ofFn f).length = n := List.length_ofFn
      obtain ⟨ys, hys, hrearranged⟩ := passes_scriptOf (List.ofFn f)
        (hlength.trans hxs.symm) (by rwa [hxs])
      rw [hxs] at hys
      rw [hprod] at hrearranged
      rw [hys, eq_ofFn_of_rearranged hrearranged]

end Haystack.Shuffle
