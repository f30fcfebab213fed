/-!
# Folding hashes

Structural hashes are signed words of 32 bits, and their arithmetic wraps. The hash of a sequence
starts from a seed and takes in one contribution after the other, `h * multiplier + c`, so it sees the
order of the items. A word of 64 bits is brought down to a contribution by xoring its halves.
-/

namespace Haystack.Digest

/-- The hash of an empty sequence. -/
def seed : Int32 := 17

/-- What a hash is multiplied with before the next contribution is added. -/
def multiplier : Int32 := 37

/-- The hash of an absent value. -/
def ofNull : Int32 := 0

/-- The xor of the two halves of a word. -/
def ofWord (w : UInt64) : Int32 :=
  (w ^^^ (w >>> 32)).toUInt32.toInt32

/-- **The hash of a sequence of contributions**, from the left and wrapping. -/
def ofContributions (cs : List Int32) : Int32 :=
  cs.foldl (fun h c => h * multiplier + c) seed

/-- Nothing contributes nothing to the seed. -/
@[simp] theorem ofContributions_nil : ofContributions [] = seed :=
  rfl

/-- The last contribution is added last. -/
theorem ofContributions_append_singleton (cs : List Int32) (c : Int32) :
    ofContributions (cs ++ [c]) = ofContributions cs * multiplier + c := by
  simp [ofContributions]

end Haystack.Digest
