import Haystack.Proofs.Binary.Distance
import Haystack.Proofs.Search.Refusal
import Haystack.Proofs.Search.SubArray

/-!
# A narrowed window loses no match

A caller gives the tolerance as a number of 64 bits and means distances of real numbers. A search for
numbers of 32 bits works with neither: it narrows the tolerance to 32 bits, and it compares the narrowed
tolerance with distances that were rounded to 32 bits. This file shows that the caller loses nothing by
it. Wherever the pattern lies within the tolerance of the haystack in exact arithmetic, it is found there
or, in the direction of the search, before.

Both roundings have to go the right way. The tolerance is rounded up, so what is within it is within its
ceiling. The distance is rounded to nearest, which may be up; but the ceiling is itself a number of 32
bits, and rounding to nearest never passes a number. That the scan then misses nothing is what it means
for its answer to be the first or the last match.
-/

namespace Haystack

/-- **Exactly within a width is within it** as the search computes it. -/
theorem Binary.ExactlyWithin.within {p : Precision} {w x y : Binary p} (hw : w.isNaN = false)
    (h : ExactlyWithin w.toEReal x y) : Within w x y := by
  cases h with
  | finite hx hy h => exact .inr (numLe_distance hx hy hw h)
  -- an infinity has no distance from itself, but it is numerically equal to itself
  | infinite hx => exact .inl (numEq_self (isNaN_of_isInfinite hx))

namespace Options

variable {α : Type}

/-- An array of numbers of 32 bits. -/
def singleArray (xs : List Single) : ElementArray α :=
  .flat ⟨.float32, xs⟩

/-- **The pattern lies exactly within `w` of the haystack at `s`**: every number of it that lies on a
number of the haystack is exactly within `w` of it. -/
def ExactlyMatchesAt (w : EReal) (xs ys : List Single) (s : Nat) : Prop :=
  ∀ j x y, xs[s + j]? = some x → ys[j]? = some y → Binary.ExactlyWithin w x y

/-- Exact matches are matches, for every width that a tolerance can have. -/
theorem matchesAt_of_exactlyMatchesAt (equal : α → α → Bool) {t : Tolerance .double}
    {xs ys : List Single} {s : Nat} (h : ExactlyMatchesAt t.width.toEReal xs ys s) :
    (singleArray xs : ElementArray α).MatchesAt equal t.width (singleArray ys) s := by
  have hagree : ∀ x y : Single, t.narrow.admits x y = true
      ↔ Slot.Agrees equal t.width (.flat .float32 x) (.flat .float32 y) :=
    FlatKind.agree_windowOf_iff equal .float32 t
  unfold singleArray
  rw [ElementArray.matchesAt_iff (TypedArray.slots_flat .float32 xs)
    (TypedArray.slots_flat .float32 ys) hagree]
  intro j x y hx hy
  -- the ceiling of the tolerance is a number of 32 bits, as the distance is
  have hceiling := t.isCeiling_narrow
  rw [Tolerance.admits_iff]
  apply Binary.ExactlyWithin.within hceiling.ordered
  exact (h j x y hx hy).mono hceiling.le

/-- **A search for numbers of 32 bits finds every exact match.** Let the pattern lie within the tolerance
of the haystack at `s`, exactly. A forward search whose bound leaves `s` then finds it at `s` or before,
and a backward search whose bound leaves `s` finds it at `s` or after. -/
theorem search_finds_exact_match (equal : α → α → Bool) (o : Options) (hvalid : o.validate = .ok ())
    (hstop : o.stop? = none) (xs ys : List Single) (s : Nat) (hfit : s + ys.length ≤ xs.length)
    (hmatch : ExactlyMatchesAt o.toleranceOrZero.toEReal xs ys s) :
    (min (max o.forwardStart.toInt 0) xs.length ≤ s →
      (∃ i ≤ s, o.firstIndexOf (Element.deepEq equal) (some (singleArray xs))
          (some (singleArray ys)) = .ok (some i))
        ∧ o.contains (Element.deepEq equal) (some (singleArray xs)) (some (singleArray ys))
          = .ok true)
      ∧ (s ≤ o.backwardStart.toInt →
        ∃ i ≥ s, o.lastIndexOf (Element.deepEq equal) (some (singleArray xs))
          (some (singleArray ys)) = .ok (some i)) := by
  obtain ⟨t, hwindow⟩ := validate_eq_ok_iff.1 hvalid
  rw [← o.window_eq_ok_iff.1 hwindow] at hmatch
  -- `s` is a match for the search, whatever its direction
  have hmatches : (singleArray xs : ElementArray α).MatchesAt equal o.toleranceOrZero
      (singleArray ys) s := by
    rw [← o.window_eq_ok_iff.1 hwindow]
    exact matchesAt_of_exactlyMatchesAt equal hmatch
  -- without an end bound the query is accepted in both directions
  have haccepts : ∀ d, o.Accepts d (singleArray ys : ElementArray α).kind := fun d =>
    .of_validate hvalid rfl fun _ => hstop
  constructor
  · intro hstart
    obtain ⟨found, hsearch, hanswer⟩ := o.exists_answer .forward equal
      (show (singleArray xs).kind = (singleArray ys).kind from rfl) (haccepts .forward)
    -- `s` is one of the starts of which the first is answered
    have hallows : o.Allows .forward xs.length ys.length s := by
      simp only [Allows, hstop]
      exact ⟨hstart, hfit⟩
    obtain ⟨i, hi, rfl⟩ := Search.FirstIn.exists_le hanswer ⟨hallows, hmatches⟩
    exact ⟨⟨i, hi, hsearch⟩, (contains_eq_ok_iff hsearch).2 rfl⟩
  · intro hlimit
    obtain ⟨found, hsearch, hanswer⟩ := o.exists_answer .backward equal
      (show (singleArray xs).kind = (singleArray ys).kind from rfl) (haccepts .backward)
    -- and backwards it is one of those of which the last is answered
    have hallows : o.Allows .backward xs.length ys.length s := by
      simp only [Allows]
      exact ⟨hlimit, hfit⟩
    obtain ⟨i, hi, rfl⟩ := Search.LastIn.exists_ge hanswer ⟨hallows, hmatches⟩
    exact ⟨i, hi, hsearch⟩

/-- Options that ask for numbers within `1 + 2 ^ (-30)`, from position `1` on or back. -/
def justAboveOne : Options :=
  (empty.withStart 1).withTolerance (Binary.ofBits .double 0x3FF0000000400000)

/-- The numbers `1` and `-2 ^ (-30)` are that far apart, exactly, but neither the tolerance nor the
distance is a number of 32 bits. In `[0, 1, ∞]` the pattern `[-2 ^ (-30), ∞]` is found all the same. -/
theorem search_finds_exact_match_justAboveOne :
    justAboveOne.validate = .ok ()
      ∧ (∃ i ≤ 1, justAboveOne.firstIndexOf (Element.deepEq (· == ·))
          (some (singles [0, 0x3F800000, 0x7F800000])) (some (singles [0xB0800000, 0x7F800000]))
            = .ok (some i))
      ∧ justAboveOne.contains (Element.deepEq (· == ·))
          (some (singles [0, 0x3F800000, 0x7F800000])) (some (singles [0xB0800000, 0x7F800000]))
            = .ok true
      ∧ ∃ i ≥ 1, justAboveOne.lastIndexOf (Element.deepEq (· == ·))
          (some (singles [0, 0x3F800000, 0x7F800000])) (some (singles [0xB0800000, 0x7F800000]))
            = .ok (some i) := by
  have hvalid : justAboveOne.validate = .ok () := by decide +kernel
  -- two numbers of the pattern lie on numbers of the haystack: a finite one and an infinity
  have hmatch : ExactlyMatchesAt justAboveOne.toleranceOrZero.toEReal
      ([0, 0x3F800000, 0x7F800000].map (Binary.ofBits .single))
      ([0xB0800000, 0x7F800000].map (Binary.ofBits .single)) 1 := by
    intro j x y hx hy
    match j with
    | 0 =>
      obtain rfl := Option.some.inj hx
      obtain rfl := Option.some.inj hy
      exact .of_units (by decide) (by decide) (by decide) (by decide +kernel) (by decide +kernel)
    | 1 =>
      obtain rfl := Option.some.inj hx
      obtain rfl := Option.some.inj hy
      exact .infinite (by decide)
    | j + 2 => cases hy
  obtain ⟨hforward, hbackward⟩ :=
    search_finds_exact_match (α := Nat) (· == ·) justAboveOne hvalid rfl _ _ 1 (by decide) hmatch
  obtain ⟨hfirst, hcontains⟩ := hforward (by decide)
  exact ⟨hvalid, hfirst, hcontains, hbackward (by decide)⟩

end Options

end Haystack
