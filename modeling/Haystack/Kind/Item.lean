import Haystack.Binary.Basic
import Haystack.Digest.Fold
import Haystack.Kind.Basic

/-!
# Items of the flat kinds

Each flat kind has its type of items, and each of these types decides equality, so exact equality of
items is simply `=`. On floating-point items this is equality of bit patterns: a NaN equals itself and
the zeros differ. That keeps exact equality an equivalence relation, and every item's contribution to
a hash is a function of the item, so equal items contribute equally.
-/

namespace Haystack.FlatKind

/-- The type of the items of a flat kind. -/
@[reducible] def Item : FlatKind → Type
  | int64 => Int64
  | int32 => Int32
  | int16 => Int16
  | int8 => Int8
  | float64 => Double
  | float32 => Single
  | bool => Bool
  | char => Char

/-- Equality of items is decided kind by kind; of floating-point items it compares bits. -/
instance decidableEqItem : (k : FlatKind) → DecidableEq k.Item
  | int64 => inferInstanceAs (DecidableEq Int64)
  | int32 => inferInstanceAs (DecidableEq Int32)
  | int16 => inferInstanceAs (DecidableEq Int16)
  | int8 => inferInstanceAs (DecidableEq Int8)
  | float64 => inferInstanceAs (DecidableEq Double)
  | float32 => inferInstanceAs (DecidableEq Single)
  | bool => inferInstanceAs (DecidableEq Bool)
  | char => inferInstanceAs (DecidableEq Char)

/-- The contribution of `true` to a hash. -/
def trueContribution : Int32 := 1231

/-- The contribution of `false` to a hash. -/
def falseContribution : Int32 := 1237

/-- **The contribution of an item to a hash.** Items of at most 32 bits contribute their bits, signed
ones extended by their sign; items of 64 bits contribute the xor of the halves of their bits. -/
def contribution : (k : FlatKind) → k.Item → Int32
  | int64, x => Digest.ofWord x.toUInt64
  | int32, x => x
  | int16, x => x.toInt32
  | int8, x => x.toInt32
  | float64, x => Digest.ofWord (UInt64.ofNat x.toBits)
  | float32, x => (UInt32.ofNat x.toBits).toInt32
  | bool, x => if x then trueContribution else falseContribution
  | char, x => x.val.toInt32

/-- Exact equality of two slices of one kind, either of which may be absent. -/
def slicesEqual (k : FlatKind) (xs ys : Option (List k.Item)) : Bool :=
  decide (xs = ys)

/-- The hash of a slice. -/
def hashItems (k : FlatKind) (xs : List k.Item) : Int32 :=
  Digest.ofContributions (xs.map k.contribution)

/-- The hash of a slice that may be absent. -/
def hashSlice (k : FlatKind) (xs? : Option (List k.Item)) : Int32 :=
  match xs? with
  | none => Digest.ofNull
  | some xs => k.hashItems xs

end Haystack.FlatKind
