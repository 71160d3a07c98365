import SolFrontier.Foundation.Bytes

/-! # SHA-256

The hash function as its standard defines it, over byte lists. It is written so
that the kernel can evaluate it on concrete messages.
-/

namespace Foundation.Sha256

/-- The round constants. -/
def k : List UInt32 :=
  [0x428a2f98, 0x71374491, 0xb5c0fbcf, 0xe9b5dba5, 0x3956c25b, 0x59f111f1, 0x923f82a4, 0xab1c5ed5,
   0xd807aa98, 0x12835b01, 0x243185be, 0x550c7dc3, 0x72be5d74, 0x80deb1fe, 0x9bdc06a7, 0xc19bf174,
   0xe49b69c1, 0xefbe4786, 0x0fc19dc6, 0x240ca1cc, 0x2de92c6f, 0x4a7484aa, 0x5cb0a9dc, 0x76f988da,
   0x983e5152, 0xa831c66d, 0xb00327c8, 0xbf597fc7, 0xc6e00bf3, 0xd5a79147, 0x06ca6351, 0x14292967,
   0x27b70a85, 0x2e1b2138, 0x4d2c6dfc, 0x53380d13, 0x650a7354, 0x766a0abb, 0x81c2c92e, 0x92722c85,
   0xa2bfe8a1, 0xa81a664b, 0xc24b8b70, 0xc76c51a3, 0xd192e819, 0xd6990624, 0xf40e3585, 0x106aa070,
   0x19a4c116, 0x1e376c08, 0x2748774c, 0x34b0bcb5, 0x391c0cb3, 0x4ed8aa4a, 0x5b9cca4f, 0x682e6ff3,
   0x748f82ee, 0x78a5636f, 0x84c87814, 0x8cc70208, 0x90befffa, 0xa4506ceb, 0xbef9a3f7, 0xc67178f2]

/-- The eight working words. -/
structure Words where
  a : UInt32
  b : UInt32
  c : UInt32
  d : UInt32
  e : UInt32
  f : UInt32
  g : UInt32
  h : UInt32
  deriving DecidableEq, Repr

def initial : Words :=
  ⟨0x6a09e667, 0xbb67ae85, 0x3c6ef372, 0xa54ff53a, 0x510e527f, 0x9b05688c, 0x1f83d9ab, 0x5be0cd19⟩

def rotateRight (word : UInt32) (count : UInt32) : UInt32 :=
  (word >>> count) ||| (word <<< (32 - count))

def sigma0 (word : UInt32) : UInt32 :=
  rotateRight word 7 ^^^ rotateRight word 18 ^^^ (word >>> 3)

def sigma1 (word : UInt32) : UInt32 :=
  rotateRight word 17 ^^^ rotateRight word 19 ^^^ (word >>> 10)

def bigSigma0 (word : UInt32) : UInt32 :=
  rotateRight word 2 ^^^ rotateRight word 13 ^^^ rotateRight word 22

def bigSigma1 (word : UInt32) : UInt32 :=
  rotateRight word 6 ^^^ rotateRight word 11 ^^^ rotateRight word 25

/-- Extend a schedule, most recent word first, by some number of words. -/
def extend : Nat → List UInt32 → List UInt32
  | 0, words => words
  | count + 1, words =>
      extend count ((sigma1 (words.getD 1 0) + words.getD 6 0 + sigma0 (words.getD 14 0) +
        words.getD 15 0) :: words)

/-- The 64 schedule words of a block of sixteen. -/
def schedule (block : List UInt32) : List UInt32 :=
  (extend 48 block.reverse).reverse

def round (words : Words) (input : UInt32 × UInt32) : Words :=
  let choice := (words.e &&& words.f) ^^^ (~~~words.e &&& words.g)
  let first := words.h + bigSigma1 words.e + choice + input.1 + input.2
  let majority := (words.a &&& words.b) ^^^ (words.a &&& words.c) ^^^ (words.b &&& words.c)
  let second := bigSigma0 words.a + majority
  ⟨first + second, words.a, words.b, words.c, words.d + first, words.e, words.f, words.g⟩

def compress (state : Words) (block : List UInt32) : Words :=
  let last := (k.zip (schedule block)).foldl round state
  ⟨state.a + last.a, state.b + last.b, state.c + last.c, state.d + last.d,
    state.e + last.e, state.f + last.f, state.g + last.g, state.h + last.h⟩

/-- Big-endian bytes of a word. -/
def wordBytes (word : UInt32) : List UInt8 :=
  [(word >>> 24).toUInt8, (word >>> 16).toUInt8, (word >>> 8).toUInt8, word.toUInt8]

/-- Read big-endian words; a padded message has no rest. -/
def toWords : List UInt8 → List UInt32
  | b0 :: b1 :: b2 :: b3 :: rest =>
      ((b0.toUInt32 <<< 24) ||| (b1.toUInt32 <<< 16) ||| (b2.toUInt32 <<< 8) ||| b3.toUInt32) ::
        toWords rest
  | _ => []

/-- The one bit, the zeros and the bit length that complete the last block. -/
def pad (message : List UInt8) : List UInt8 :=
  let bits := UInt64.ofNat (8 * message.length)
  message ++ (0x80 : UInt8) :: List.replicate ((119 - message.length % 64) % 64) 0 ++
    wordBytes (bits >>> 32).toUInt32 ++ wordBytes bits.toUInt32

/-- Compress a known number of sixteen-word blocks. -/
def compressBlocks : Nat → Words → List UInt32 → Words
  | 0, state, _ => state
  | count + 1, state, words => compressBlocks count (compress state (words.take 16)) (words.drop 16)

/-- The 32-byte digest of a message. -/
def digest (message : List UInt8) : Bytes 32 :=
  let words := toWords (pad message)
  let last := compressBlocks (words.length / 16) initial words
  ⟨wordBytes last.a ++ wordBytes last.b ++ wordBytes last.c ++ wordBytes last.d ++
    wordBytes last.e ++ wordBytes last.f ++ wordBytes last.g ++ wordBytes last.h, rfl⟩

/-- The standard's own one-block message, the bytes of `abc`. -/
example : digest [0x61, 0x62, 0x63] =
    ⟨[0xba, 0x78, 0x16, 0xbf, 0x8f, 0x01, 0xcf, 0xea, 0x41, 0x41, 0x40, 0xde, 0x5d, 0xae, 0x22, 0x23,
      0xb0, 0x03, 0x61, 0xa3, 0x96, 0x17, 0x7a, 0x9c, 0xb4, 0x10, 0xff, 0x61, 0xf2, 0x00, 0x15, 0xad],
      rfl⟩ := by
  decide +kernel

end Foundation.Sha256
