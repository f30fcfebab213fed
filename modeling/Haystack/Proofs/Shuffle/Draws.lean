import Haystack.Proofs.Shuffle.Positions

/-!
# A shuffle uses its source by the length

Whoever shares one source between shuffles gets the same results again only if each shuffle takes the
same number of draws again, with the same bounds. It does, as **the length decides**: a shuffle of `n`
items takes `2 * n` draws below `n`, whether the draws lead to exchanges or not, and none at all if there
are fewer than two items (`drawCount`).

The draws that a source gives one after the other are counted here from `0` (`drawAt`), and `afterDraws` is
the state that they leave it in. In these terms a shuffle moves its source `drawCount` draws on
(`list_of_inRange`), an array does as the list of its slots does, and shuffles one after the other add up
(`repeated_of_inRange`). All of it is said of any source, so it can be said of one that is recorded, whose
state shows what it was asked for (`afterDraws_recorder`), and of a script, which gives what is written in
it (`drawAt_script`).

Draws out of range may end a shuffle before its time, so those that are made are assumed to be in range.
-/

namespace Haystack.Shuffle

variable {α σ : Type}

/-! ### Draws one after the other -/

section Draws

variable (next : Nat → σ → Nat × σ) (bound : Nat)

/-- The state of a source after a number of draws, all with one bound. -/
def afterDraws (n : Nat) (s : σ) : σ :=
  (fun s => (next bound s).2)^[n] s

/-- **The draw that a source gives after `k` other ones**, all with one bound. -/
def drawAt (s : σ) (k : Nat) : Nat :=
  (next bound (afterDraws next bound k s)).1

/-- Draws one after the other add up. -/
theorem afterDraws_add (m n : Nat) (s : σ) :
    afterDraws next bound (m + n) s = afterDraws next bound n (afterDraws next bound m s) := by
  rw [afterDraws, Nat.add_comm, Function.iterate_add_apply]
  rfl

/-- Behind `m` draws the draws are counted from `m` on. -/
theorem drawAt_afterDraws (m k : Nat) (s : σ) :
    drawAt next bound (afterDraws next bound m s) k = drawAt next bound s (m + k) := by
  rw [drawAt, drawAt, afterDraws_add]

/-- A pass takes two draws. -/
theorem afterPass_iterate (n : Nat) (s : σ) :
    (afterPass next bound)^[n] s = afterDraws next bound (2 * n) s := by
  rw [afterDraws, Function.iterate_mul]
  rfl

/-- Pass `k` takes the draws `2 * k` and `2 * k + 1`. -/
theorem pairAt_eq_draws (s : σ) (k : Nat) :
    pairAt next bound s k = (drawAt next bound s (2 * k), drawAt next bound s (2 * k + 1)) := by
  rw [pairAt, afterPass_iterate, drawAt, drawAt, afterDraws_add]
  rfl

/-- A script gives one draw after the other. -/
theorem afterDraws_script (draws : List Nat) (given n : Nat) :
    afterDraws Source.next bound n (.script draws given) = .script draws (given + n) := by
  induction n generalizing given with
  | zero => rfl
  | succ n ih =>
    -- the first draw moves the script on by one
    calc afterDraws Source.next bound (n + 1) (.script draws given)
        = afterDraws Source.next bound n (.script draws (given + 1)) := rfl
      _ = .script draws (given + 1 + n) := ih (given + 1)
      _ = .script draws (given + (n + 1)) := by rw [Nat.add_assoc, Nat.add_comm 1 n]

/-- The draws of a script are its own, again and again. -/
theorem drawAt_script (draws : List Nat) (k : Nat) :
    drawAt Source.next bound (.script draws 0) k = draws.getD (k % draws.length) 0 := by
  rw [drawAt, afterDraws_script, Nat.zero_add]
  rfl

/-- **A recorder keeps every draw**, with the bound that was asked for, behind those that it had. -/
theorem afterDraws_recorder (n : Nat) (r : Recorder σ) :
    afterDraws (Recorder.next next) bound n r
      = ⟨afterDraws next bound n r.source,
        r.draws ++ (List.range n).map fun k => (bound, drawAt next bound r.source k)⟩ := by
  induction n generalizing r with
  | zero => rw [List.range_zero, List.map_nil, List.append_nil]; rfl
  | succ n ih =>
    -- the first draw is put on record, and the others follow it
    have hfirst : afterDraws (Recorder.next next) bound (n + 1) r
        = afterDraws (Recorder.next next) bound n
          ⟨(next bound r.source).2, r.draws ++ [(bound, drawAt next bound r.source 0)]⟩ := rfl
    rw [hfirst, ih, List.range_succ_eq_map, List.map_cons, List.map_map, List.append_assoc]
    rfl

/-- A recorder gives the draws of the source that it records. -/
theorem drawAt_recorder (r : Recorder σ) (k : Nat) :
    drawAt (Recorder.next next) bound r k = drawAt next bound r.source k := by
  rw [drawAt, afterDraws_recorder]
  rfl

end Draws

/-! ### One shuffle -/

/-- **How many draws shuffles take**: two for each item and each time, if there are two items at least. -/
def drawCount (length times : Nat) : Nat :=
  if length ≤ 1 then 0 else 2 * length * times

/-- The first of several shuffles takes its draws, and the others take theirs. -/
theorem drawCount_succ (length times : Nat) :
    drawCount length (times + 1) = drawCount length 1 + drawCount length times := by
  unfold drawCount
  split
  · rfl
  · rw [Nat.mul_succ, Nat.mul_one, Nat.add_comm]

/-- Where draws are taken there are two items at least. -/
theorem two_le_of_lt_drawCount {k length times : Nat} (hk : k < drawCount length times) :
    2 ≤ length := by
  by_contra hfew
  rw [drawCount, if_pos (by omega)] at hk
  exact absurd hk (Nat.not_lt_zero k)

/-- The draws that a number of shuffles take are below the length. -/
def InRange (next : Nat → σ → Nat × σ) (length times : Nat) (s : σ) : Prop :=
  ∀ k < drawCount length times, drawAt next length s k < length

section Shuffles

variable {next : Nat → σ → Nat × σ} {s : σ}

/-- A source that stays below its bounds gives no draws but such. -/
theorem StaysBelow.inRange (h : StaysBelow next) (length times : Nat) (s : σ) :
    InRange next length times s := by
  intro k hk
  exact h length _ (Nat.zero_lt_of_lt (two_le_of_lt_drawCount hk))

/-- A script whose draws are below the length is in range for any number of shuffles. -/
theorem inRange_script {length : Nat} {draws : List Nat} (h : ∀ i ∈ draws, i < length)
    (times : Nat) : InRange Source.next length times (.script draws 0) := by
  intro k hk
  rw [drawAt_script, List.getD_eq_getElem?_getD]
  cases hdraw : draws[k % draws.length]? with
  | none =>
    -- only an empty script has no draw at that place, and gives a zero
    exact Nat.zero_lt_of_lt (two_le_of_lt_drawCount hk)
  | some i => exact h i (List.mem_of_getElem? hdraw)

/-- Draws in range for several shuffles are in range for the first one, and behind it for the others. -/
theorem InRange.of_succ {length times : Nat} (h : InRange next length (times + 1) s) :
    InRange next length 1 s
      ∧ InRange next length times (afterDraws next length (drawCount length 1) s) := by
  rw [InRange, drawCount_succ length times] at h
  refine ⟨fun k hk => h k (Nat.lt_add_right _ hk), fun k hk => ?_⟩
  rw [drawAt_afterDraws]
  exact h _ (Nat.add_lt_add_left hk _)

/-- **The shuffle of a list moves its source on by the length**, whatever is drawn, and brings the items
into some order. -/
theorem list_of_inRange {xs : List α} (h : InRange next xs.length 1 s) :
    ∃ ys, list next xs s = (.ok ys, afterDraws next xs.length (drawCount xs.length 1) s)
      ∧ ys.Perm xs := by
  unfold InRange drawCount at *
  unfold list
  split
  · exact ⟨xs, rfl, List.Perm.refl xs⟩
  · next hlength =>
    rw [if_neg hlength, Nat.mul_one] at h
    -- every pass has two draws in range
    have hharmless : ∀ k < xs.length, Harmless xs.length (pairAt next xs.length s k) := by
      intro k hk
      rw [pairAt_eq_draws]
      exact .inr ⟨h _ (by omega), h _ (by omega)⟩
    obtain ⟨ys, hys, hrearranged⟩ := passes_of_harmless next xs.length hharmless
    refine ⟨ys, ?_, hrearranged.perm⟩
    rw [hys, afterPass_iterate, Nat.mul_one]

/-- The shuffle of an array does so too, and keeps its kind. -/
theorem array_of_inRange {a : TypedArray α} (h : InRange next a.length 1 s) :
    ∃ b, array next a s = (.ok b, afterDraws next a.length (drawCount a.length 1) s)
      ∧ b.kind = a.kind ∧ b.length = a.length := by
  rw [← a.length_slots] at h
  obtain ⟨ys, hys, hperm⟩ := list_of_inRange h
  have hlength := hperm.length_eq
  rw [list_slots, a.length_slots] at hys
  rw [a.length_slots] at hlength
  -- an outcome on slots is one on arrays, of the same kind
  have hkind := (shuffleLaw_array next a s).2
  cases hout : array next a s with
  | mk outcome s' =>
    rw [hout] at hys hkind
    obtain ⟨hslots, hstate⟩ := Prod.mk.inj hys
    cases outcome with
    | error e => cases hslots
    | ok b =>
      obtain rfl : b.slots = ys := Except.ok.inj hslots
      obtain rfl : s' = _ := hstate
      exact ⟨b, rfl, hkind b rfl, b.length_slots.symm.trans hlength⟩

/-! ### Shuffles one after the other -/

/-- **Shuffles one after the other take their draws one after the other.** The induction is on the number
of shuffles; each leaves an array of the same length, for which the next one takes as many draws. -/
theorem repeated_of_inRange {a : TypedArray α} {t : Nat} (h : InRange next a.length t s) :
    ∃ bs, repeated next t a s = (.ok bs, afterDraws next a.length (drawCount a.length t) s)
      ∧ bs.length = t ∧ ∀ b ∈ bs, b.kind = a.kind ∧ b.length = a.length := by
  induction t generalizing a s with
  | zero =>
    have hnone : drawCount a.length 0 = 0 := ite_self 0
    rw [hnone]
    exact ⟨[], rfl, rfl, fun b hb => absurd hb List.not_mem_nil⟩
  | succ t ih =>
    obtain ⟨hfirst, hrest⟩ := h.of_succ
    obtain ⟨b, hb, hkind, hlength⟩ := array_of_inRange hfirst
    rw [← hlength] at hrest
    obtain ⟨bs, hbs, hcount, hall⟩ := ih hrest
    refine ⟨b :: bs, ?_, by rw [List.length_cons, hcount], ?_⟩
    · -- the state behind all shuffles is the one behind the first, moved on by the others
      rw [repeated_succ_of_ok next (congrArg Prod.fst hb), hb, drawCount_succ a.length t,
        afterDraws_add, ← hlength, hbs]
      rfl
    · intro c hc
      rcases List.mem_cons.1 hc with rfl | hc
      · exact ⟨hkind, hlength⟩
      · obtain ⟨hkind', hlength'⟩ := hall c hc
        exact ⟨hkind'.trans hkind, hlength'.trans hlength⟩

/-- Recording changes neither what a shuffle of an array gives nor the source. -/
theorem array_recorder (next : Nat → σ → Nat × σ) (a : TypedArray α) (r : Recorder σ) :
    Prod.map id Recorder.source (array (Recorder.next next) a r) = array next a r.source := by
  rcases a with ⟨k, xs⟩ | xs
  · have hlist := list_recorder next xs r
    refine Prod.ext ?_ (congrArg Prod.snd hlist :)
    rw [Prod.map_fst, array_flat, array_flat, ← hlist]
    rfl
  · have hlist := list_recorder next xs r
    refine Prod.ext ?_ (congrArg Prod.snd hlist :)
    rw [Prod.map_fst, array_reference, array_reference, ← hlist]
    rfl

/-- Nor does it in any number of shuffles. -/
theorem repeated_recorder (next : Nat → σ → Nat × σ) (t : Nat) (a : TypedArray α) (r : Recorder σ) :
    Prod.map id Recorder.source (repeated (Recorder.next next) t a r)
      = repeated next t a r.source := by
  induction t generalizing a r with
  | zero => rfl
  | succ t ih =>
    -- recorded or not, the first shuffle ends alike, and the others begin from the same state
    have hfirst := array_recorder next a r
    cases hout : array (Recorder.next next) a r with
    | mk outcome r' =>
      rw [hout] at hfirst
      have hout' : array next a r.source = (outcome, r'.source) := hfirst.symm
      unfold repeated
      rw [hout, hout']
      cases outcome with
      | error e => rfl
      | ok b =>
        dsimp only
        rw [← ih b r']
        rfl

/-- **What shuffles ask of their source is fixed by the length.** Shuffle an array of `n` items any number
`t` of times with one source whose draws are in range. If `n` is at most one, nothing is drawn and the
source stays as it is. Otherwise `2 * n * t` draws are made, the bound of each of them being `n`, and the
source is left where they lead. No bound is ever less than two. All shuffles complete, and every array on
the way has the kind and the length of the first one; recording the draws changes none of it. -/
theorem draws_fixed_by_length (next : Nat → σ → Nat × σ) (s : σ) (a : TypedArray α) (t : Nat)
    (h : InRange next a.length t s) :
    ∃ (bs : List (TypedArray α)) (r : Recorder σ),
      repeated (Recorder.next next) t a (.start s) = (.ok bs, r)
        ∧ repeated next t a s = (.ok bs, r.source)
        ∧ (a.length ≤ 1 → r.draws = [] ∧ r.source = s)
        ∧ (2 ≤ a.length → r.draws.map Prod.fst = List.replicate (2 * a.length * t) a.length
          ∧ r.source = afterDraws next a.length (2 * a.length * t) s)
        ∧ (∀ d ∈ r.draws, 2 ≤ d.1)
        ∧ bs.length = t ∧ ∀ b ∈ bs, b.kind = a.kind ∧ b.length = a.length := by
  -- the recorder gives the same draws, so they are in range as well
  have hrecorded : InRange (Recorder.next next) a.length t (.start s) := by
    intro k hk
    rw [drawAt_recorder]
    exact h k hk
  obtain ⟨bs, hbs, hcount, hall⟩ := repeated_of_inRange hrecorded
  have hplain := repeated_recorder next t a (.start s)
  rw [hbs] at hplain
  refine ⟨bs, _, hbs, hplain.symm, fun hlength => ?_, fun hlength => ?_, fun d hd => ?_, hcount, hall⟩
  · rw [drawCount, if_pos hlength]
    exact ⟨rfl, rfl⟩
  · -- the recorder has one entry for each draw, and the length for its bound
    rw [drawCount, if_neg (Nat.not_le.2 hlength), afterDraws_recorder, Recorder.start,
      List.nil_append, List.map_map, Function.comp_def, List.map_const', List.length_range]
    exact ⟨rfl, rfl⟩
  · rw [afterDraws_recorder, Recorder.start, List.nil_append] at hd
    obtain ⟨k, hk, rfl⟩ := List.mem_map.1 hd
    -- something was drawn, so there are two items
    rw [List.mem_range, drawCount] at hk
    show 2 ≤ a.length
    by_contra hfew
    rw [if_pos (by omega)] at hk
    exact absurd hk (Nat.not_lt_zero k)

/-- A counter that is taken modulo the bound shuffles three references twice and is twelve draws further
on then, all of them below three. -/
theorem draws_fixed_by_length_counter :
    InRange (fun bound (n : Nat) => (n % bound, n + 1)) 3 2 5
      ∧ ∃ bs r, repeated (Recorder.next fun bound (n : Nat) => (n % bound, n + 1)) 2
            (.reference [Element.null, .value "a", .array (.reference [.null])]) (.start 5) = (.ok bs, r)
          ∧ r.draws.map Prod.fst = List.replicate 12 3 ∧ r.source = 17 := by
  have hbelow : StaysBelow fun bound (n : Nat) => (n % bound, n + 1) := fun bound n h => Nat.mod_lt n h
  have hrange := hbelow.inRange 3 2 5
  obtain ⟨bs, r, hrun, -, -, hdraws, -⟩ := draws_fixed_by_length
    (fun bound (n : Nat) => (n % bound, n + 1)) 5
    (.reference [Element.null, .value "a", .array (.reference [.null])]) 2 hrange
  obtain ⟨hbounds, hsource⟩ := hdraws (by decide)
  exact ⟨hrange, bs, r, hrun, hbounds, hsource⟩

end Shuffles

end Haystack.Shuffle
