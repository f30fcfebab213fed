import Haystack.Proofs.Value.Slot
import Haystack.Shuffle.Source
import Haystack.Shuffle.Basic
import Mathlib.Algebra.BigOperators.Group.List.Basic
import Mathlib.Algebra.Group.End
import Mathlib.Logic.Equiv.Basic

/-!
# A shuffle applies the transpositions of its draws

What a shuffle does is decided by the positions that its source gives, and by nothing else. This file
reads off the source what the passes will draw (`pairAt`), and says by it when a shuffle completes and
what comes out:

* a pass is `Harmless` if its two positions are equal or both in range; a shuffle completes exactly
  when all its passes are harmless;
* the items are then rearranged by the product of the transpositions that the passes draw
  (`arrangement`), the first pass being the leftmost factor.

The source is any state machine. Its draws may ignore the bound, and what it gives next may depend on
everything that it was asked for, so the pairs are defined by running it, with no items involved.

The step lemma is `exchange_of_harmless` with its counterpart `exchange_of_not_harmless`, the run
lemmas are `passes_of_harmless` and `harmless_of_passes_ok`, and `ShuffleLaw` puts together what they
say of a whole shuffle. The law of a typed array is the law of the list of its slots.
-/

namespace Haystack.Shuffle

variable {α σ : Type}

/-! ### What a source draws -/

/-- The pair of positions that a pass draws from a state of the source. -/
def pair (next : Nat → σ → Nat × σ) (bound : Nat) (s : σ) : Nat × Nat :=
  ((next bound s).1, (next bound (next bound s).2).1)

/-- The state that a pass leaves the source in. -/
def afterPass (next : Nat → σ → Nat × σ) (bound : Nat) (s : σ) : σ :=
  (next bound (next bound s).2).2

/-- **The pair of positions that pass `k` draws**, counted from `0`, in a shuffle that begins in state
`s`. -/
def pairAt (next : Nat → σ → Nat × σ) (bound : Nat) (s : σ) (k : Nat) : Nat × Nat :=
  pair next bound ((afterPass next bound)^[k] s)

/-- A pair of positions that does no harm to `n` items: two equal ones, wherever they are, or two that
are in range. -/
def Harmless (n : Nat) (p : Nat × Nat) : Prop :=
  p.1 = p.2 ∨ p.1 < n ∧ p.2 < n

/-- **The arrangement that the first `n` passes bring about**: the product of their transpositions. -/
def arrangement (next : Nat → σ → Nat × σ) (bound : Nat) (s : σ) (n : Nat) : Equiv.Perm Nat :=
  ((List.range n).map fun k =>
    Equiv.swap (pairAt next bound s k).1 (pairAt next bound s k).2).prod

section Draws

variable (next : Nat → σ → Nat × σ) (bound : Nat) (s : σ)

/-- The first pass is the leftmost factor of the arrangement. -/
theorem arrangement_succ (n : Nat) :
    arrangement next bound s (n + 1)
      = Equiv.swap (pair next bound s).1 (pair next bound s).2
        * arrangement next bound (afterPass next bound s) n := by
  rw [arrangement, List.range_succ_eq_map, List.map_cons, List.map_map, List.prod_cons]
  rfl

/-- All of `n + 1` passes are harmless when the first one is and the others are. -/
theorem harmless_succ_iff (m n : Nat) :
    (∀ k < n + 1, Harmless m (pairAt next bound s k))
      ↔ Harmless m (pair next bound s)
        ∧ ∀ k < n, Harmless m (pairAt next bound (afterPass next bound s) k) := by
  constructor
  · intro h
    refine ⟨h 0 (Nat.succ_pos n), fun k hk => ?_⟩
    exact h (k + 1) (Nat.succ_lt_succ hk)
  · rintro ⟨h0, h⟩ k hk
    cases k with
    | zero => exact h0
    | succ k => exact h k (Nat.lt_of_succ_lt_succ hk)

end Draws

/-! ### Rearranged lists -/

/-- **One list is a rearrangement of another** along a permutation of the positions: the item at `k`
comes from `π k`. -/
structure Rearranged (π : Equiv.Perm Nat) (xs ys : List α) : Prop where
  length_eq : ys.length = xs.length
  perm : ys.Perm xs
  getElem?_eq : ∀ k, ys[k]? = xs[π k]?

namespace Rearranged

/-- A list is a rearrangement of itself. -/
theorem refl (xs : List α) : Rearranged 1 xs xs :=
  ⟨rfl, List.Perm.refl _, fun _ => rfl⟩

/-- Rearranging twice is rearranging along the product. -/
theorem trans {π ρ : Equiv.Perm Nat} {xs ys zs : List α} (hxy : Rearranged π xs ys)
    (hyz : Rearranged ρ ys zs) : Rearranged (π * ρ) xs zs where
  length_eq := hyz.length_eq.trans hxy.length_eq
  perm := hyz.perm.trans hxy.perm
  getElem?_eq k := by rw [hyz.getElem?_eq, hxy.getElem?_eq, Equiv.Perm.mul_apply]

/-- Images are rearranged as the items are. -/
theorem map {β : Type} {π : Equiv.Perm Nat} {xs ys : List α} (f : α → β)
    (h : Rearranged π xs ys) : Rearranged π (xs.map f) (ys.map f) where
  length_eq := by rw [List.length_map, List.length_map, h.length_eq]
  perm := h.perm.map f
  getElem?_eq k := by rw [List.getElem?_map, List.getElem?_map, h.getElem?_eq]

end Rearranged

/-- Exchanging two items in range rearranges a list along their transposition. -/
theorem rearranged_set_set {xs : List α} {i j : Nat} (hi : i < xs.length) (hj : j < xs.length) :
    Rearranged (Equiv.swap i j) xs ((xs.set i xs[j]).set j xs[i]) where
  length_eq := by rw [List.length_set, List.length_set]
  perm := List.set_set_perm hi hj
  getElem?_eq k := by
    rw [Equiv.swap_apply_def, List.getElem?_set, List.getElem?_set, List.length_set]
    -- the second `set` wins where both positions are one
    by_cases hki : k = i
    · subst hki
      by_cases hkj : j = k
      · subst hkj
        simp [hi]
      · simp [hkj, hi, hj]
    · by_cases hkj : k = j
      · subst hkj
        simp [hki, hi, hj]
      · rw [if_neg (Ne.symm hkj), if_neg (Ne.symm hki), if_neg hki, if_neg hkj]

/-! ### One pass -/

/-- **A harmless pass** exchanges the items at its two positions. -/
theorem exchange_of_harmless {xs : List α} {p : Nat × Nat} (h : Harmless xs.length p) :
    ∃ ys, exchange xs p.1 p.2 = .ok ys ∧ Rearranged (Equiv.swap p.1 p.2) xs ys := by
  by_cases heq : p.1 = p.2
  · -- two equal draws leave the items alone, and their transposition is the identity
    refine ⟨xs, if_pos heq, ?_⟩
    rw [heq, Equiv.swap_self]
    exact Rearranged.refl xs
  · obtain ⟨hi, hj⟩ := h.resolve_left heq
    refine ⟨(xs.set p.1 xs[p.2]).set p.2 xs[p.1], ?_, rearranged_set_set hi hj⟩
    rw [exchange, if_neg heq, swap, List.getElem?_eq_getElem hi, List.getElem?_eq_getElem hj]

/-- A pass that is not harmless ends the shuffle. -/
theorem exchange_of_not_harmless {xs : List α} {p : Nat × Nat} (h : ¬Harmless xs.length p) :
    exchange xs p.1 p.2 = .error ⟨p.1, p.2, xs.length⟩ := by
  obtain ⟨hne, hrange⟩ := not_or.1 h
  rw [exchange, if_neg hne, swap]
  split
  · next hi hj =>
    obtain ⟨hi, -⟩ := List.getElem?_eq_some_iff.1 hi
    obtain ⟨hj, -⟩ := List.getElem?_eq_some_iff.1 hj
    exact absurd ⟨hi, hj⟩ hrange
  · rfl

/-! ### All passes -/

section Passes

variable (next : Nat → σ → Nat × σ) (bound : Nat)

/-- A first pass that goes well leaves the other passes to be made. -/
theorem passes_succ_of_ok {n : Nat} {xs ys : List α} {s : σ}
    (h : exchange xs (pair next bound s).1 (pair next bound s).2 = .ok ys) :
    passes next bound (n + 1) xs s = passes next bound n ys (afterPass next bound s) := by
  rw [pair] at h
  rw [passes]
  simp only [h]
  rfl

/-- A first pass that goes wrong is the last one. -/
theorem passes_succ_of_error {n : Nat} {xs : List α} {s : σ} {e : BadSwap}
    (h : exchange xs (pair next bound s).1 (pair next bound s).2 = .error e) :
    passes next bound (n + 1) xs s = (.error e, afterPass next bound s) := by
  rw [pair] at h
  rw [passes]
  simp only [h]
  rfl

/-- **Harmless passes complete**, and rearrange the items by the transpositions that they draw. The
induction is on the number of passes; each pass keeps the length, so what is harmless for the list at
the beginning is harmless for it all along. -/
theorem passes_of_harmless {n : Nat} {xs : List α} {s : σ}
    (h : ∀ k < n, Harmless xs.length (pairAt next bound s k)) :
    ∃ ys, passes next bound n xs s = (.ok ys, (afterPass next bound)^[n] s)
      ∧ Rearranged (arrangement next bound s n) xs ys := by
  induction n generalizing xs s with
  | zero => exact ⟨xs, rfl, Rearranged.refl xs⟩
  | succ n ih =>
    obtain ⟨hfirst, hrest⟩ := (harmless_succ_iff next bound s xs.length n).1 h
    obtain ⟨zs, hzs, hxz⟩ := exchange_of_harmless hfirst
    -- the bound of the other passes is the length of what the first one leaves
    rw [← hxz.length_eq] at hrest
    obtain ⟨ys, hys, hzy⟩ := ih hrest
    refine ⟨ys, ?_, ?_⟩
    · rw [passes_succ_of_ok next bound hzs, hys]
      rfl
    · rw [arrangement_succ]
      exact hxz.trans hzy

/-- **Passes complete only if they are harmless.** -/
theorem harmless_of_passes_ok {n : Nat} {xs ys : List α} {s : σ}
    (h : (passes next bound n xs s).1 = .ok ys) :
    ∀ k < n, Harmless xs.length (pairAt next bound s k) := by
  induction n generalizing xs s with
  | zero => exact fun k hk => absurd hk (Nat.not_lt_zero k)
  | succ n ih =>
    rw [harmless_succ_iff]
    by_cases hfirst : Harmless xs.length (pair next bound s)
    · obtain ⟨zs, hzs, hxz⟩ := exchange_of_harmless hfirst
      rw [passes_succ_of_ok next bound hzs] at h
      refine ⟨hfirst, ?_⟩
      rw [← hxz.length_eq]
      exact ih h
    · -- a first pass that is not harmless would have ended everything
      rw [passes_succ_of_error next bound (exchange_of_not_harmless hfirst)] at h
      exact absurd h (by simp)

end Passes

/-! ### The law of a shuffle -/

/-- **The law of a shuffle** of items `xs`, driven by a source from state `s`, that ends in `outcome`.
Fewer than two items stay as they are. Otherwise the shuffle makes one pass for each item; it completes
exactly when all of them are harmless, and then the items are rearranged by their transpositions. -/
structure ShuffleLaw (next : Nat → σ → Nat × σ) (s : σ) (xs : List α)
    (outcome : Except BadSwap (List α)) : Prop where
  unchanged : xs.length ≤ 1 → outcome = .ok xs
  completes_iff : 2 ≤ xs.length → ((∃ ys, outcome = .ok ys) ↔
    ∀ k < xs.length, Harmless xs.length (pairAt next xs.length s k))
  rearranged : 2 ≤ xs.length → ∀ ys, outcome = .ok ys →
    Rearranged (arrangement next xs.length s xs.length) xs ys

/-- A source that stays below every bound that it is given. -/
def StaysBelow (next : Nat → σ → Nat × σ) : Prop :=
  ∀ bound s, 0 < bound → (next bound s).1 < bound

variable {next : Nat → σ → Nat × σ} {s : σ}

/-- Such a source makes harmless passes only. -/
theorem StaysBelow.harmless (hnext : StaysBelow next) {n : Nat} (hn : 0 < n) (k : Nat) :
    Harmless n (pairAt next n s k) :=
  Or.inr ⟨hnext n _ hn, hnext n _ hn⟩

namespace ShuffleLaw

/-- The law of a shuffle does not depend on what the items are, only on where they are. -/
theorem map {β : Type} (f : α → β) {xs : List α} {outcome : Except BadSwap (List α)}
    (h : ShuffleLaw next s xs outcome) :
    ShuffleLaw next s (xs.map f) (outcome.map (List.map f)) where
  unchanged hlen := by
    rw [List.length_map] at hlen
    rw [h.unchanged hlen]
    rfl
  completes_iff hlen := by
    rw [List.length_map] at hlen ⊢
    rw [← h.completes_iff hlen]
    cases outcome <;> simp [Except.map]
  rearranged hlen zs hzs := by
    rw [List.length_map] at hlen ⊢
    cases outcome with
    | error e => exact absurd hzs (by simp [Except.map])
    | ok ys =>
      obtain rfl : ys.map f = zs := Except.ok.inj hzs
      exact (h.rearranged hlen ys rfl).map f

/-- **A source that stays below its bound never ends a shuffle**, and the items come out in some order. -/
theorem perm_of_staysBelow {xs : List α} {outcome : Except BadSwap (List α)}
    (h : ShuffleLaw next s xs outcome) (hnext : StaysBelow next) :
    ∃ ys, outcome = .ok ys ∧ ys.Perm xs := by
  by_cases hlen : xs.length ≤ 1
  · exact ⟨xs, h.unchanged hlen, List.Perm.refl xs⟩
  · -- all passes are harmless, so the shuffle completes, and rearranges by what it draws
    have hlen' : 2 ≤ xs.length := Nat.lt_of_not_le hlen
    obtain ⟨ys, hys⟩ := (h.completes_iff hlen').2 fun k _ =>
      hnext.harmless (Nat.lt_of_lt_of_le Nat.two_pos hlen') k
    exact ⟨ys, hys, (h.rearranged hlen' ys hys).perm⟩

end ShuffleLaw

/-- **The shuffle of a list obeys the law.** -/
theorem shuffleLaw_list (next : Nat → σ → Nat × σ) (xs : List α) (s : σ) :
    ShuffleLaw next s xs (list next xs s).1 where
  unchanged hlen := by rw [list, if_pos hlen]
  completes_iff hlen := by
    rw [list, if_neg (Nat.not_le.2 hlen)]
    constructor
    · rintro ⟨ys, hys⟩
      exact harmless_of_passes_ok next xs.length hys
    · intro h
      obtain ⟨ys, hys, -⟩ := passes_of_harmless next xs.length h
      exact ⟨ys, by rw [hys]⟩
  rearranged hlen ys hys := by
    rw [list, if_neg (Nat.not_le.2 hlen)] at hys
    -- the shuffle completed, so its passes were harmless and the result is theirs
    obtain ⟨zs, hzs, hrearranged⟩ :=
      passes_of_harmless next xs.length (harmless_of_passes_ok next xs.length hys)
    rw [hzs] at hys
    obtain rfl : zs = ys := Except.ok.inj hys
    exact hrearranged

/-! ### Typed arrays -/

/-- A flat array is shuffled as the list of its items. -/
theorem array_flat (next : Nat → σ → Nat × σ) (k : FlatKind) (xs : List k.Item) (s : σ) :
    (array next (.flat ⟨k, xs⟩ : TypedArray α) s).1
      = (list next xs s).1.map fun ys => .flat ⟨k, ys⟩ := rfl

/-- So is an array of references. -/
theorem array_reference (next : Nat → σ → Nat × σ) (xs : List α) (s : σ) :
    (array next (.reference xs) s).1 = (list next xs s).1.map .reference := rfl

/-- The law of a list carries over to the arrays that are made of its items in one way, here `wrap`. -/
private theorem ShuffleLaw.wrap {β : Type} {wrap : List β → TypedArray α} {slot : β → Slot α}
    (hslots : ∀ ys, (wrap ys).slots = ys.map slot) (hkind : ∀ ys zs, (wrap ys).kind = (wrap zs).kind)
    {xs : List β} {outcome : Except BadSwap (List β)} (h : ShuffleLaw next s xs outcome) :
    ShuffleLaw next s (wrap xs).slots ((outcome.map wrap).map TypedArray.slots)
      ∧ ∀ b, outcome.map wrap = .ok b → b.kind = (wrap xs).kind := by
  have hout : (outcome.map wrap).map TypedArray.slots = outcome.map (List.map slot) := by
    cases outcome with
    | error e => rfl
    | ok ys => exact congrArg Except.ok (hslots ys)
  refine ⟨?_, fun b hb => ?_⟩
  · rw [hout, hslots]
    exact h.map slot
  · cases outcome with
    | error e => exact absurd hb (by simp [Except.map])
    | ok ys =>
      obtain rfl : wrap ys = b := Except.ok.inj hb
      exact hkind ys xs

/-- **The shuffle of a typed array obeys the law**, read on its slots, and keeps the kind. -/
theorem shuffleLaw_array (next : Nat → σ → Nat × σ) (a : TypedArray α) (s : σ) :
    ShuffleLaw next s a.slots ((array next a s).1.map TypedArray.slots)
      ∧ ∀ b, (array next a s).1 = .ok b → b.kind = a.kind := by
  rcases a with ⟨k, xs⟩ | xs
  · rw [array_flat]
    exact (shuffleLaw_list next xs s).wrap (TypedArray.slots_flat k) fun _ _ => rfl
  · rw [array_reference]
    exact (shuffleLaw_list next xs s).wrap TypedArray.slots_reference fun _ _ => rfl

/-- **A shuffle loses nothing and repeats nothing, and fails exactly when it must.** A list and a typed
array of any kind obey the law of a shuffle under every source; an array keeps its kind, and its
references are moved as they are, with all that is nested in them. Under a source that stays below its
bound a shuffle always completes. -/
theorem shuffle_law (next : Nat → σ → Nat × σ) (s : σ) :
    (∀ xs : List α, ShuffleLaw next s xs (list next xs s).1)
      ∧ (∀ a : TypedArray α, ShuffleLaw next s a.slots ((array next a s).1.map TypedArray.slots)
          ∧ ∀ b, (array next a s).1 = .ok b → b.kind = a.kind)
      ∧ (StaysBelow next →
          (∀ xs : List α, ∃ ys, (list next xs s).1 = .ok ys ∧ ys.Perm xs)
            ∧ ∀ a : TypedArray α, ∃ b, (array next a s).1 = .ok b
              ∧ b.kind = a.kind ∧ b.slots.Perm a.slots) := by
  refine ⟨fun xs => shuffleLaw_list next xs s, fun a => shuffleLaw_array next a s,
    fun hnext => ⟨fun xs => ?_, fun a => ?_⟩⟩
  · exact (shuffleLaw_list next xs s).perm_of_staysBelow hnext
  · obtain ⟨hlaw, hkind⟩ := shuffleLaw_array next a s
    obtain ⟨ys, hys, hperm⟩ := hlaw.perm_of_staysBelow hnext
    -- what comes out of an array has some order of its slots
    cases hout : (array next a s).1 with
    | error e =>
      rw [hout] at hys
      exact absurd hys (by simp [Except.map])
    | ok b =>
      rw [hout] at hys
      obtain rfl : b.slots = ys := Except.ok.inj hys
      exact ⟨b, rfl, hkind b hout, hperm⟩

/-- A counter that is taken modulo the bound stays below it, so it shuffles three references and loses
none; and so does the script that begins with two equal draws far out of range. -/
theorem shuffle_law_counter :
    StaysBelow (fun bound (n : Nat) => (n % bound, n + 1))
      ∧ (∃ b, (array (fun bound (n : Nat) => (n % bound, n + 1))
            (.reference [Element.null, .value "a", .array (.reference [.null])]) 5).1 = .ok b
          ∧ b.kind = .reference
          ∧ b.slots.Perm [.reference .null, .reference (.value "a"),
            .reference (.array (.reference [.null]))])
      ∧ ∃ ys, (list Source.next ['a', 'b', 'c'] (.script [9, 9, 0, 2, 1, 1] 0)).1 = .ok ys
          ∧ ys.length = 3 ∧ ys.Perm ['a', 'b', 'c'] := by
  have hbelow : StaysBelow (fun bound (n : Nat) => (n % bound, n + 1)) :=
    fun bound n h => Nat.mod_lt n h
  have hharmless : ∀ k < 3, Harmless 3 (pairAt Source.next 3 (.script [9, 9, 0, 2, 1, 1] 0) k) := by
    unfold Harmless
    decide
  refine ⟨hbelow, ((shuffle_law _ 5).2.2 hbelow).2 _, ?_⟩
  have hlaw := (shuffle_law Source.next (.script [9, 9, 0, 2, 1, 1] 0)).1 ['a', 'b', 'c']
  obtain ⟨ys, hys⟩ := (hlaw.completes_iff (by decide)).2 hharmless
  have hout := hlaw.rearranged (by decide) ys hys
  exact ⟨ys, hys, hout.length_eq, hout.perm⟩

end Haystack.Shuffle
