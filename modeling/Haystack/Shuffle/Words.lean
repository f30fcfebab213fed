/-!
# Uniform draws from random words

A `WordStream` gives words of 64 bits: first those of a given list, then those of the SplitMix64
generator. A position below a bound is drawn from it by **widening multiplication**. The product of a
word and the bound has 128 bits; its upper half is below the bound, and it is uniform as long as the
lower half stays in a zone whose size is a multiple of the bound. A word that falls outside the zone
is thrown away and another one is taken.

Rejection could go on for as long as the stream gives bad words, but not for ever: SplitMix64 goes
through all words, zero among them, and zero is always accepted. After the given words at most `2 ^ 64`
more are taken.
-/

namespace Haystack

-- powers of natural numbers are those of the core library, also next to other power operations
attribute [local instance (high)] instPowNat

/-- A stream of random words, and how many were taken from it. -/
structure WordStream where
  /-- The words to give before the generator is asked. -/
  given : List UInt64
  /-- The state of the generator. -/
  state : UInt64
  taken : Nat

namespace WordStream

/-- The output of the generator in a state. -/
def mix (z : UInt64) : UInt64 :=
  let z := (z ^^^ (z >>> 30)) * 0xbf58476d1ce4e5b9
  let z := (z ^^^ (z >>> 27)) * 0x94d049bb133111eb
  z ^^^ (z >>> 31)

/-- The next word. -/
def word (s : WordStream) : UInt64 × WordStream :=
  match s.given with
  | w :: rest => (w, { s with given := rest, taken := s.taken + 1 })
  | [] =>
    let state := s.state + 0x9e3779b97f4a7c15
    (mix state, { s with state := state, taken := s.taken + 1 })

/-- The last lower half that is accepted: one less than the greatest `bound * 2 ^ k` below `2 ^ 64`. -/
def zone (bound : Nat) : Nat :=
  bound * 2 ^ (63 - bound.log2) - 1

/-- A draw below a bound that looks at no more than `fuel` words. -/
def drawWithin (bound : Nat) : Nat → WordStream → Nat × WordStream
  | 0, s => (0, s)
  | fuel + 1, s =>
    let (w, s) := s.word
    -- the upper half of the product is the draw, the lower half decides on it
    let product := w.toNat * bound
    if product % 2 ^ (64 : Nat) ≤ zone bound then (product / 2 ^ (64 : Nat), s)
    else drawWithin bound fuel s

/-- **A uniform draw below a bound.** -/
def draw (bound : Nat) (s : WordStream) : Nat × WordStream :=
  drawWithin bound (s.given.length + 2 ^ (64 : Nat)) s

/-- A draw stays below its bound. -/
theorem drawWithin_lt {bound : Nat} (h : 0 < bound) (fuel : Nat) (s : WordStream) :
    (drawWithin bound fuel s).1 < bound := by
  induction fuel generalizing s with
  | zero => exact h
  | succ fuel ih =>
    simp only [drawWithin]
    split
    · -- a word is less than `2 ^ 64`, so the upper half of its product with the bound is below the bound
      exact Nat.div_lt_of_lt_mul (Nat.mul_lt_mul_of_pos_right s.word.1.toNat_lt h)
    · exact ih _

/-- **The stream is a source that stays below its bound**, whatever its words are. -/
theorem draw_lt {bound : Nat} (h : 0 < bound) (s : WordStream) : (s.draw bound).1 < bound :=
  drawWithin_lt h _ s

end WordStream

end Haystack
