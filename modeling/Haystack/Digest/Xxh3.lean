/-!
# XXH3

The 64-bit XXH3 hash of a byte string, with seed zero and the default secret. It is four functions
in one, chosen by the length of the input: up to 16 bytes are mixed whole, up to 128 bytes from both
ends towards the middle, up to 240 bytes front to back in lines of 16 bytes, and anything longer in
stripes of 64 bytes through eight accumulators, which are scrambled after every block of sixteen
stripes.

All arithmetic is on words of 64 bits and wraps. Reading past the end of the bytes gives zeros, so
every function here is total; within the lengths that each branch is chosen for, no such read occurs.
-/

namespace Haystack.Digest.Xxh3

-- powers of natural numbers are those of the core library, also next to other power operations
attribute [local instance (high)] instPowNat

/-! ### Constants -/

/-- The default secret, 192 bytes. -/
def secret : ByteArray := ⟨#[
  0xb8, 0xfe, 0x6c, 0x39, 0x23, 0xa4, 0x4b, 0xbe, 0x7c, 0x01, 0x81, 0x2c, 0xf7, 0x21, 0xad, 0x1c,
  0xde, 0xd4, 0x6d, 0xe9, 0x83, 0x90, 0x97, 0xdb, 0x72, 0x40, 0xa4, 0xa4, 0xb7, 0xb3, 0x67, 0x1f,
  0xcb, 0x79, 0xe6, 0x4e, 0xcc, 0xc0, 0xe5, 0x78, 0x82, 0x5a, 0xd0, 0x7d, 0xcc, 0xff, 0x72, 0x21,
  0xb8, 0x08, 0x46, 0x74, 0xf7, 0x43, 0x24, 0x8e, 0xe0, 0x35, 0x90, 0xe6, 0x81, 0x3a, 0x26, 0x4c,
  0x3c, 0x28, 0x52, 0xbb, 0x91, 0xc3, 0x00, 0xcb, 0x88, 0xd0, 0x65, 0x8b, 0x1b, 0x53, 0x2e, 0xa3,
  0x71, 0x64, 0x48, 0x97, 0xa2, 0x0d, 0xf9, 0x4e, 0x38, 0x19, 0xef, 0x46, 0xa9, 0xde, 0xac, 0xd8,
  0xa8, 0xfa, 0x76, 0x3f, 0xe3, 0x9c, 0x34, 0x3f, 0xf9, 0xdc, 0xbb, 0xc7, 0xc7, 0x0b, 0x4f, 0x1d,
  0x8a, 0x51, 0xe0, 0x4b, 0xcd, 0xb4, 0x59, 0x31, 0xc8, 0x9f, 0x7e, 0xc9, 0xd9, 0x78, 0x73, 0x64,
  0xea, 0xc5, 0xac, 0x83, 0x34, 0xd3, 0xeb, 0xc3, 0xc5, 0x81, 0xa0, 0xff, 0xfa, 0x13, 0x63, 0xeb,
  0x17, 0x0d, 0xdd, 0x51, 0xb7, 0xf0, 0xda, 0x49, 0xd3, 0x16, 0x55, 0x26, 0x29, 0xd4, 0x68, 0x9e,
  0x2b, 0x16, 0xbe, 0x58, 0x7d, 0x47, 0xa1, 0xfc, 0x8f, 0xf8, 0xb8, 0xd1, 0x7a, 0xd0, 0x31, 0xce,
  0x45, 0xcb, 0x3a, 0x8f, 0x95, 0x16, 0x04, 0x28, 0xaf, 0xd7, 0xfb, 0xca, 0xbb, 0x4b, 0x40, 0x7e]⟩

/-- The first prime of 32 bits; the second and third follow. -/
def prime32a : UInt64 := 0x9E3779B1

/-- The second prime of 32 bits. -/
def prime32b : UInt64 := 0x85EBCA77

/-- The third prime of 32 bits. -/
def prime32c : UInt64 := 0xC2B2AE3D

/-- The first prime of 64 bits; four more follow. -/
def prime64a : UInt64 := 0x9E3779B185EBCA87

/-- The second prime of 64 bits. -/
def prime64b : UInt64 := 0xC2B2AE3D27D4EB4F

/-- The third prime of 64 bits. -/
def prime64c : UInt64 := 0x165667B19E3779F9

/-- The fourth prime of 64 bits. -/
def prime64d : UInt64 := 0x85EBCA77C2B2AE63

/-- The fifth prime of 64 bits. -/
def prime64e : UInt64 := 0x27D4EB2F165667C5

/-- The multiplier of the long avalanche. -/
def longMultiplier : UInt64 := 0x165667919E3779F9

/-- The multiplier of the mix for four to eight bytes. -/
def shortMultiplier : UInt64 := 0x9FB21C651E98DF25

/-! ### Words -/

/-- The byte at a place. -/
def byteAt (b : ByteArray) (i : Nat) : UInt64 :=
  (b.data.getD i 0).toUInt64

/-- The `count` bytes from a place on, the least significant one first. -/
def wordAt (b : ByteArray) (i count : Nat) : UInt64 :=
  (List.range count).foldr (fun k w => (w <<< 8) ||| byteAt b (i + k)) 0

/-- The four bytes from a place on. -/
def word32 (b : ByteArray) (i : Nat) : UInt64 :=
  wordAt b i 4

/-- The eight bytes from a place on. -/
def word64 (b : ByteArray) (i : Nat) : UInt64 :=
  wordAt b i 8

/-- The eight bytes of the secret from a place on. -/
def key (i : Nat) : UInt64 :=
  word64 secret i

/-- Rotation to the left. -/
def rotate (w : UInt64) (k : UInt64) : UInt64 :=
  (w <<< k) ||| (w >>> (64 - k))

/-- The bytes of a word in reverse. -/
def reverseBytes (w : UInt64) : UInt64 :=
  (List.range 8).foldl (fun r k => (r <<< 8) ||| ((w >>> (8 * UInt64.ofNat k)) &&& 0xff)) 0

/-- The two halves of the product of 128 bits, xored. -/
def foldedProduct (x y : UInt64) : UInt64 :=
  let product := x.toNat * y.toNat
  UInt64.ofNat product ^^^ UInt64.ofNat (product / 2 ^ (64 : Nat))

/-- The product of the two halves of a word. -/
def halvesProduct (w : UInt64) : UInt64 :=
  w.toUInt32.toUInt64 * (w >>> 32)

/-! ### Avalanches -/

/-- The final mix of inputs of up to three bytes. -/
def shortAvalanche (h : UInt64) : UInt64 :=
  let h := (h ^^^ (h >>> 33)) * prime64b
  let h := (h ^^^ (h >>> 29)) * prime64c
  h ^^^ (h >>> 32)

/-- The final mix of inputs of more than eight bytes. -/
def avalanche (h : UInt64) : UInt64 :=
  let h := (h ^^^ (h >>> 37)) * longMultiplier
  h ^^^ (h >>> 32)

/-- The final mix of inputs of four to eight bytes. -/
def mediumAvalanche (h size : UInt64) : UInt64 :=
  let h := (h ^^^ rotate h 49 ^^^ rotate h 24) * shortMultiplier
  let h := (h ^^^ ((h >>> 35) + size)) * shortMultiplier
  h ^^^ (h >>> 28)

/-! ### Inputs of up to 240 bytes -/

/-- No bytes. -/
def hashEmpty : UInt64 :=
  shortAvalanche (key 56 ^^^ key 64)

/-- One to three bytes. -/
def hashTiny (b : ByteArray) : UInt64 :=
  let size := b.size
  let combined := (byteAt b 0 <<< 16) ||| (byteAt b (size / 2) <<< 24) ||| byteAt b (size - 1) |||
    (UInt64.ofNat size <<< 8)
  shortAvalanche (combined ^^^ (word32 secret 0 ^^^ word32 secret 4))

/-- Four to eight bytes. -/
def hashShort (b : ByteArray) : UInt64 :=
  let size := b.size
  let input := word32 b (size - 4) + (word32 b 0 <<< 32)
  mediumAvalanche (input ^^^ (key 8 ^^^ key 16)) (UInt64.ofNat size)

/-- Nine to sixteen bytes. -/
def hashLine (b : ByteArray) : UInt64 :=
  let size := b.size
  let low := word64 b 0 ^^^ (key 24 ^^^ key 32)
  let high := word64 b (size - 8) ^^^ (key 40 ^^^ key 48)
  avalanche (UInt64.ofNat size + reverseBytes low + high + foldedProduct low high)

/-- The contribution of a line of sixteen bytes, under the secret from `k` on. -/
def mixLine (b : ByteArray) (i k : Nat) : UInt64 :=
  foldedProduct (word64 b i ^^^ key k) (word64 b (i + 8) ^^^ key (k + 8))

/-- Seventeen to 128 bytes: lines from both ends, as many pairs as are needed to meet. -/
def hashMedium (b : ByteArray) : UInt64 :=
  let size := b.size
  let pairs := (size - 1) / 32 + 1
  avalanche <| (List.range pairs).foldl
    (fun acc k => acc + mixLine b (16 * k) (32 * k) + mixLine b (size - 16 * (k + 1)) (32 * k + 16))
    (UInt64.ofNat size * prime64a)

/-- 129 to 240 bytes: eight lines, an avalanche, the other lines under a shifted secret, and the last
sixteen bytes once more. -/
def hashLarge (b : ByteArray) : UInt64 :=
  let size := b.size
  let first := (List.range 8).foldl (fun acc k => acc + mixLine b (16 * k) (16 * k))
    (UInt64.ofNat size * prime64a)
  let rest := (List.range (size / 16 - 8)).foldl
    (fun acc k => acc + mixLine b (16 * (k + 8)) (16 * k + 3)) (avalanche first)
  avalanche (rest + mixLine b (size - 16) 119)

/-! ### Longer inputs -/

/-- What the eight accumulators start from. -/
def initialLanes : List UInt64 :=
  [prime32c, prime64a, prime64b, prime64c, prime64d, prime32b, prime64e, prime32a]

/-- Takes the stripe from place `i` on into the accumulators, under the secret from `k` on. Each
accumulator gets the product of the halves of its own keyed word and, as it is, the word of its
neighbour. -/
def accumulate (b : ByteArray) (i k : Nat) (lanes : List UInt64) : List UInt64 :=
  lanes.mapIdx fun (j : Nat) (acc : UInt64) =>
    let keyed := word64 b (i + 8 * j) ^^^ key (k + 8 * j)
    let neighbour := word64 b (i + 8 * (j ^^^ 1))
    acc + neighbour + halvesProduct keyed

/-- Scrambles the accumulators at the end of a block. -/
def scramble (lanes : List UInt64) : List UInt64 :=
  lanes.mapIdx fun (j : Nat) (acc : UInt64) => (acc ^^^ (acc >>> 47) ^^^ key (128 + 8 * j)) * prime32a

/-- Takes in `count` stripes from place `i` on, the secret moving on by a word for each. -/
def accumulateStripes (b : ByteArray) (i count : Nat) (lanes : List UInt64) : List UInt64 :=
  (List.range count).foldl (fun lanes k => accumulate b (i + 64 * k) (8 * k) lanes) lanes

/-- The product of a pair of accumulators, under the secret from `k` on. -/
def mergePairs : Nat → List UInt64 → UInt64
  | k, x :: y :: lanes => foldedProduct (x ^^^ key k) (y ^^^ key (k + 8)) + mergePairs (k + 16) lanes
  | _, _ => 0

/-- More than 240 bytes: whole blocks of sixteen stripes, the stripes after them, and the last 64
bytes once more. -/
def hashLong (b : ByteArray) : UInt64 :=
  let size := b.size
  let blocks := (size - 1) / 1024
  let lanes := (List.range blocks).foldl
    (fun lanes n => scramble (accumulateStripes b (1024 * n) 16 lanes)) initialLanes
  -- the stripes after the last whole block, which is never the end of the input
  let lanes := accumulateStripes b (1024 * blocks) ((size - 1 - 1024 * blocks) / 64) lanes
  let lanes := accumulate b (size - 64) 121 lanes
  avalanche (UInt64.ofNat size * prime64a + mergePairs 11 lanes)

/-- **The hash of a byte string.** -/
def hash (b : ByteArray) : UInt64 :=
  if b.size = 0 then hashEmpty
  else if b.size ≤ 3 then hashTiny b
  else if b.size ≤ 8 then hashShort b
  else if b.size ≤ 16 then hashLine b
  else if b.size ≤ 128 then hashMedium b
  else if b.size ≤ 240 then hashLarge b
  else hashLong b

end Haystack.Digest.Xxh3
