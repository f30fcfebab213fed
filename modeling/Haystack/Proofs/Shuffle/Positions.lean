import Haystack.Proofs.Shuffle.Transposition
import Mathlib.Data.List.Forall2

/-!
# A shuffle sees positions only

A shuffle asks its source for positions and exchanges what stands there, and never looks at what that is.
So it does the same to any two lists of one length. This file says so in two ways.

* **Along a function.** A shuffle of the images of the items gives the images of the shuffled items, from
  the same draws, and leaves the source in the same state; and it ends with the same bad swap, if it ends
  with one (`list_map`). The law is passed up from one exchange to a pass and from there to all passes.
* **Between arrays.** What a source makes of arrays of `n` items, in any number of shuffles one after
  another, is told by `n` and the state of the source: either a bad swap, or one permutation of the
  positions for each shuffle (`exists_told_repeated`). Arrays of any kind and any content do as told.

The second way follows from the first, as every list of `n` items has one image in common with every
other: the list in which all items are the same.
-/

namespace Haystack.Shuffle

variable {α β σ τ : Type}

/-! ### Along a function -/

/-- Exchanging images is taking images of what was exchanged, and it fails alike. -/
theorem swap_map (f : α → β) (xs : List α) (i j : Nat) :
    swap (xs.map f) i j = (swap xs i j).map (List.map f) := by
  unfold swap
  rw [List.getElem?_map, List.getElem?_map, List.length_map]
  cases xs[i]? with
  | none => rfl
  | some x =>
    cases xs[j]? with
    | none => rfl
    | some y =>
      change Except.ok _ = Except.ok _
      rw [List.map_set, List.map_set]

/-- So it is with a pass that may have drawn one position twice. -/
theorem exchange_map (f : α → β) (xs : List α) (i j : Nat) :
    exchange (xs.map f) i j = (exchange xs i j).map (List.map f) := by
  unfold exchange
  split
  · rfl
  · exact swap_map f xs i j

/-- **Passes over the images of items** give the images, and move the source alike. The induction is on
the number of passes, each of which leaves images of what it leaves. -/
theorem passes_map (next : Nat → σ → Nat × σ) (bound : Nat) (f : α → β) (n : Nat) (xs : List α)
    (s : σ) : passes next bound n (xs.map f) s
      = Prod.map (Except.map (List.map f)) id (passes next bound n xs s) := by
  induction n generalizing xs s with
  | zero => rfl
  | succ n ih =>
    -- the first pass ends alike on items and images
    have hfirst := exchange_map f xs (pair next bound s).1 (pair next bound s).2
    cases h : exchange xs (pair next bound s).1 (pair next bound s).2 with
    | error e =>
      rw [h] at hfirst
      rw [passes_succ_of_error next bound h, passes_succ_of_error next bound hfirst]
      rfl
    | ok ys =>
      rw [h] at hfirst
      rw [passes_succ_of_ok next bound h, passes_succ_of_ok next bound hfirst]
      exact ih ys _

/-- **A shuffle commutes with every function on the items.** -/
theorem list_map (next : Nat → σ → Nat × σ) (f : α → β) (xs : List α) (s : σ) :
    list next (xs.map f) s = Prod.map (Except.map (List.map f)) id (list next xs s) := by
  unfold list
  rw [List.length_map]
  split
  · rfl
  · exact passes_map next xs.length f xs.length xs s

/-! ### Recorded draws -/

/-- Passes that are recorded are the passes that they would have been. -/
theorem passes_recorder (next : Nat → σ → Nat × σ) (bound n : Nat) (xs : List α) (r : Recorder σ) :
    Prod.map id Recorder.source (passes (Recorder.next next) bound n xs r)
      = passes next bound n xs r.source := by
  induction n generalizing xs r with
  | zero => rfl
  | succ n ih =>
    -- recorded or not, the first pass draws the same pair
    have hpair : pair (Recorder.next next) bound r = pair next bound r.source := rfl
    cases h : exchange xs (pair next bound r.source).1 (pair next bound r.source).2 with
    | error e =>
      rw [passes_succ_of_error next bound h,
        passes_succ_of_error (Recorder.next next) bound (hpair ▸ h)]
      rfl
    | ok ys =>
      rw [passes_succ_of_ok next bound h, passes_succ_of_ok (Recorder.next next) bound (hpair ▸ h)]
      exact ih ys _

/-- A shuffle that is recorded is the shuffle that it would have been. -/
theorem list_recorder (next : Nat → σ → Nat × σ) (xs : List α) (r : Recorder σ) :
    Prod.map id Recorder.source (list (Recorder.next next) xs r) = list next xs r.source := by
  unfold list
  split
  · rfl
  · exact passes_recorder next xs.length xs.length xs r

/-- **The draws of a shuffle**, in order: for each the bound and the position. -/
def draws (next : Nat → σ → Nat × σ) (xs : List α) (s : σ) : List (Nat × Nat) :=
  (list (Recorder.next next) xs (.start s)).2.draws

/-- What items are mapped to does not change the draws. -/
theorem draws_map (next : Nat → σ → Nat × σ) (f : α → β) (xs : List α) (s : σ) :
    draws next (xs.map f) s = draws next xs s := by
  unfold draws
  rw [list_map]
  rfl

/-! ### Between lists of one length -/

/-- **Two outcomes are alike**: one bad swap twice, or two results that are related. -/
inductive Alike (R : α → β → Prop) : Except BadSwap α → Except BadSwap β → Prop
  | error (e : BadSwap) : Alike R (.error e) (.error e)
  | ok {x : α} {y : β} (h : R x y) : Alike R (.ok x) (.ok y)

/-- Outcomes that are alike stay so under functions that carry one relation over to the other. -/
theorem Alike.map {γ δ : Type} {R : α → β → Prop} {S : γ → δ → Prop} {f : α → γ} {g : β → δ}
    {x : Except BadSwap α} {y : Except BadSwap β} (h : Alike R x y)
    (hfg : ∀ u v, R u v → S (f u) (g v)) : Alike S (x.map f) (y.map g) := by
  cases h with
  | error e => exact .error e
  | ok h => exact .ok (hfg _ _ h)

variable (next : Nat → σ → Nat × σ)

/-- Shuffles of lists of one length rearrange them along one permutation, if they complete. -/
theorem exists_rearranged (n : Nat) (s : σ) : ∃ π : Equiv.Perm Nat,
    ∀ {α : Type} (xs ys : List α), xs.length = n → (list next xs s).1 = .ok ys →
      Rearranged π xs ys := by
  by_cases hn : n ≤ 1
  · -- fewer than two items stay where they are
    refine ⟨1, fun xs ys hlength hys => ?_⟩
    have hout := (shuffleLaw_list next xs s).unchanged (hlength ▸ hn)
    rw [hout] at hys
    obtain rfl : xs = ys := Except.ok.inj hys
    exact Rearranged.refl xs
  · -- otherwise the permutation is the one that the draws make, read off the source
    refine ⟨arrangement next n s n, fun xs ys hlength hys => ?_⟩
    subst hlength
    exact (shuffleLaw_list next xs s).rearranged (Nat.lt_of_not_le hn) ys hys

/-- **What a shuffle makes of a list is told by the length.** The list whose items are all the same is
the image of every list of that length, so it completes, fails and draws as all of them do. -/
theorem exists_told_list (n : Nat) (s : σ) :
    ∃ (told : Except BadSwap (Equiv.Perm Nat)) (s' : σ), ∀ {α : Type} (xs : List α),
      xs.length = n →
        Alike (fun π ys => Rearranged π xs ys) told (list next xs s).1 ∧ (list next xs s).2 = s' := by
  obtain ⟨π, hπ⟩ := exists_rearranged next n s
  -- every list of that length is mapped to the one whose items are all the same
  have himage : ∀ {α : Type} (xs : List α), xs.length = n →
      list next (List.replicate n ()) s
        = Prod.map (Except.map (List.map fun _ => ())) id (list next xs s) := by
    intro α xs hlength
    rw [← list_map, List.map_const', hlength]
  refine ⟨(list next (List.replicate n ()) s).1.map fun _ => π,
    (list next (List.replicate n ()) s).2, fun xs hlength => ?_⟩
  rw [himage xs hlength]
  refine ⟨?_, rfl⟩
  rw [Prod.map_fst]
  cases hout : (list next xs s).1 with
  | error e => exact .error e
  | ok ys => exact .ok (hπ xs ys hlength hout)

/-! ### Between arrays of one length -/

/-- **The shuffle of an array is the shuffle of its slots.** -/
theorem list_slots (a : TypedArray α) (s : σ) :
    list next a.slots s = Prod.map (Except.map TypedArray.slots) id (array next a s) := by
  rcases a with ⟨k, xs⟩ | xs
  · -- slots are images of the items, in flat arrays and in those of references
    rw [TypedArray.slots_flat, list_map]
    refine Prod.ext ?_ rfl
    rw [Prod.map_fst, Prod.map_fst, array_flat]
    cases (list next xs s).1 <;> rfl
  · rw [TypedArray.slots_reference, list_map]
    refine Prod.ext ?_ rfl
    rw [Prod.map_fst, Prod.map_fst, array_reference]
    cases (list next xs s).1 <;> rfl

/-- **An array has become another one** by moving its items along a permutation of the positions. -/
structure Moved (π : Equiv.Perm Nat) (a b : TypedArray α) : Prop where
  kind_eq : b.kind = a.kind
  slots : Rearranged π a.slots b.slots

/-- Moving keeps the length. -/
theorem Moved.length_eq {π : Equiv.Perm Nat} {a b : TypedArray α} (h : Moved π a b) :
    b.length = a.length := by
  rw [← b.length_slots, ← a.length_slots]
  exact h.slots.length_eq

/-- Moving twice is moving along the product. -/
theorem Moved.trans {π ρ : Equiv.Perm Nat} {a b c : TypedArray α} (hab : Moved π a b)
    (hbc : Moved ρ b c) : Moved (π * ρ) a c where
  kind_eq := hbc.kind_eq.trans hab.kind_eq
  slots := hab.slots.trans hbc.slots

/-- What a shuffle makes of an array is told by the length, whatever the kind. -/
theorem exists_told_array (n : Nat) (s : σ) :
    ∃ (told : Except BadSwap (Equiv.Perm Nat)) (s' : σ), ∀ {α : Type} (a : TypedArray α),
      a.length = n →
        Alike (fun π b => Moved π a b) told (array next a s).1 ∧ (array next a s).2 = s' := by
  obtain ⟨told, s', htold⟩ := exists_told_list next n s
  refine ⟨told, s', fun a hlength => ?_⟩
  obtain ⟨hout, hstate⟩ := htold a.slots (a.length_slots.trans hlength)
  rw [list_slots] at hout hstate
  refine ⟨?_, hstate⟩
  have hkind := (shuffleLaw_array next a s).2
  rw [Prod.map_fst] at hout
  -- an outcome on slots is one on arrays, as a shuffle keeps the kind
  cases hb : (array next a s).1 with
  | error e =>
    rw [hb] at hout
    cases hout
    exact .error e
  | ok b =>
    rw [hb] at hout
    cases hout with
    | ok h => exact .ok ⟨hkind b hb, h⟩

/-- A shuffle that fails is the last one. -/
theorem repeated_succ_of_error {t : Nat} {a : TypedArray α} {s : σ} {e : BadSwap}
    (h : (array next a s).1 = .error e) :
    repeated next (t + 1) a s = (.error e, (array next a s).2) := by
  rw [repeated]
  cases hout : array next a s with
  | mk outcome s' =>
    obtain rfl : outcome = .error e := by rw [hout] at h; exact h
    rfl

/-- A shuffle that completes leaves its array to the others. -/
theorem repeated_succ_of_ok {t : Nat} {a b : TypedArray α} {s : σ}
    (h : (array next a s).1 = .ok b) :
    repeated next (t + 1) a s
      = Prod.map (Except.map (b :: ·)) id (repeated next t b (array next a s).2) := by
  rw [repeated]
  cases hout : array next a s with
  | mk outcome s' =>
    obtain rfl : outcome = .ok b := by rw [hout] at h; exact h
    rfl

/-- **What shuffles one after another make of an array is told by the length.** The induction is on the
number of shuffles; each keeps the length, so the next one is told by the same length and the state that
the source was left in. -/
theorem exists_told_repeated (n t : Nat) (s : σ) :
    ∃ (told : Except BadSwap (List (Equiv.Perm Nat))) (s' : σ), ∀ {α : Type} (a : TypedArray α),
      a.length = n →
        Alike (List.Forall₂ fun π b => Moved π a b) told (repeated next t a s).1
          ∧ (repeated next t a s).2 = s' := by
  induction t generalizing s with
  | zero => exact ⟨.ok [], s, fun a _ => ⟨.ok .nil, rfl⟩⟩
  | succ t ih =>
    obtain ⟨first, s₁, hfirst⟩ := exists_told_array next n s
    cases first with
    | error e =>
      -- the first shuffle fails on all arrays of that length
      refine ⟨.error e, s₁, fun a hlength => ?_⟩
      obtain ⟨hout, hstate⟩ := hfirst a hlength
      cases hb : (array next a s).1 with
      | error e' =>
        rw [hb] at hout
        cases hout
        rw [repeated_succ_of_error next hb]
        exact ⟨.error e, hstate⟩
      | ok b =>
        rw [hb] at hout
        cases hout
    | ok π =>
      -- it completes on all of them, along one permutation, and the others are told from there
      obtain ⟨told, s', htold⟩ := ih s₁
      refine ⟨told.map fun πs => π :: πs.map (π * ·), s', fun a hlength => ?_⟩
      obtain ⟨hout, hstate⟩ := hfirst a hlength
      cases hb : (array next a s).1 with
      | error e =>
        rw [hb] at hout
        cases hout
      | ok b =>
        rw [hb] at hout
        cases hout with
        | ok hab =>
          obtain ⟨hrest, hend⟩ := htold b (hab.length_eq.trans hlength)
          rw [repeated_succ_of_ok next hb, hstate]
          refine ⟨hrest.map fun πs bs hbs => ?_, hend⟩
          -- what is told of `b` is told of `a` with the first permutation in front
          refine .cons hab (List.forall₂_map_left_iff.2 (hbs.imp fun ρ c hbc => ?_))
          exact hab.trans hbc

/-- **A shuffle depends on positions only.** Whatever the items are mapped to, the shuffle of the images
is the image of the shuffle, with the same draws and the same state of the source at the end, and with the
same bad swap if there is one; that the draws are recorded changes neither. So whatever arrays of `n` items
are shuffled from one state of a source, any number of times, there is one permutation of the positions
for each time that moves the items of all of them, or one bad swap that ends all of their shuffles. -/
theorem shuffle_sees_positions_only (s : σ) :
    (∀ {α β : Type} (f : α → β) (xs : List α),
        list next (xs.map f) s = Prod.map (Except.map (List.map f)) id (list next xs s)
          ∧ draws next (xs.map f) s = draws next xs s
          ∧ Prod.map id Recorder.source (list (Recorder.next next) xs (.start s)) = list next xs s)
      ∧ ∀ n t, ∃ (told : Except BadSwap (List (Equiv.Perm Nat))) (s' : σ),
        ∀ {α : Type} (a : TypedArray α), a.length = n →
          Alike (List.Forall₂ fun π b => Moved π a b) told (repeated next t a s).1
            ∧ (repeated next t a s).2 = s' := by
  constructor
  · intro α β f xs
    exact ⟨list_map next f xs s, draws_map next f xs s, list_recorder next xs (.start s)⟩
  · intro n t
    exact exists_told_repeated next n t s

/-- Three numbers, of which two are equal. -/
def threeNumbers : TypedArray (Element String) :=
  .flat ⟨.int32, [7, 7, 9]⟩

/-- Three references, one of which is an array itself. -/
def threeReferences : TypedArray (Element String) :=
  .reference [.null, .value "a", .array (.reference [.null])]

/-- A script of five draws moves equal numbers about just as it moves references: two shuffles from its
beginning take both arrays along the same two permutations. -/
theorem shuffle_sees_positions_only_script :
    threeNumbers.length = 3 ∧ threeReferences.length = 3
      ∧ ∃ πs : List (Equiv.Perm Nat),
        List.Forall₂ (fun π b => Moved π threeNumbers b) πs
            [.flat ⟨.int32, [7, 9, 7]⟩, .flat ⟨.int32, [9, 7, 7]⟩]
          ∧ List.Forall₂ (fun π b => Moved π threeReferences b) πs
            [.reference [.null, .array (.reference [.null]), .value "a"],
              .reference [.array (.reference [.null]), .null, .value "a"]] := by
  obtain ⟨told, s', htold⟩ :=
    (shuffle_sees_positions_only Source.next (.script [0, 1, 1, 2, 2] 0)).2 3 2
  obtain ⟨hnumbers, -⟩ := htold threeNumbers rfl
  obtain ⟨hreferences, -⟩ := htold threeReferences rfl
  refine ⟨rfl, rfl, ?_⟩
  -- both arrays complete, so what is told are two permutations
  have hout : (repeated Source.next 2 threeNumbers (.script [0, 1, 1, 2, 2] 0)).1
      = .ok [.flat ⟨.int32, [7, 9, 7]⟩, .flat ⟨.int32, [9, 7, 7]⟩] := rfl
  rw [hout] at hnumbers
  cases hnumbers with
  | @ok πs _ hπ =>
    cases hreferences with
    | ok hρ => exact ⟨πs, hπ, hρ⟩

end Haystack.Shuffle
