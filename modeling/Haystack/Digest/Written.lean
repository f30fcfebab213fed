import Haystack.Digest.Fold
import Haystack.Digest.Xxh3

/-!
# Hashing a value by its bytes

An opaque value is hashed through the bytes that it writes: `valueHash` is the folded XXH3 hash of
`Written.bytes`. Two values that write the same bytes hash alike, and nothing else about a value
counts. A string ends its bytes with one that occurs in no UTF-8 text, so that strings written one
after the other cannot be mistaken for each other; numbers write their two's complement, the least
significant byte first.
-/

namespace Haystack.Digest

-- powers of natural numbers are those of the core library, also next to other power operations
attribute [local instance (high)] instPowNat

/-- A type whose values are hashed by the bytes that they write. -/
class Written (α : Type) where
  /-- The bytes of a value. -/
  bytes : α → ByteArray

/-- The last `count` bytes of a number, the least significant one first. -/
def littleEndian (count n : Nat) : ByteArray :=
  ⟨((List.range count).map fun k => UInt8.ofNat (n / 256 ^ k)).toArray⟩

/-- The bytes of a signed word of 32 bits; hashes are written this way as well. -/
def wordBytes (w : Int32) : ByteArray :=
  littleEndian 4 w.toUInt32.toNat

/-- A string writes its bytes and an end mark, which is a byte of no string. -/
instance : Written String where
  bytes s := s.toUTF8.push 0xff

/-! Numbers write the bytes that they take up, a boolean one and a character four. -/

instance : Written Int64 where
  bytes x := littleEndian 8 x.toUInt64.toNat

instance : Written Int32 where
  bytes := wordBytes

instance : Written Int16 where
  bytes x := littleEndian 2 x.toUInt16.toNat

instance : Written Int8 where
  bytes x := littleEndian 1 x.toUInt8.toNat

instance : Written Bool where
  bytes x := littleEndian 1 x.toNat

instance : Written Char where
  bytes x := littleEndian 4 x.toNat

/-- **The hash of an opaque value.** -/
def valueHash {α : Type} [Written α] (x : α) : Int32 :=
  ofWord (Xxh3.hash (Written.bytes x))

end Haystack.Digest
