/-
The MD5 digest of RFC 1321.
-/
namespace SegmentPaths

namespace Md5

/-- The four words a digest is built in. -/
structure Chain where
  a : UInt32
  b : UInt32
  c : UInt32
  d : UInt32

def start : Chain := ⟨0x67452301, 0xefcdab89, 0x98badcfe, 0x10325476⟩

/-- The sines that the steps add, as integers. -/
def sines : List UInt32 :=
  [0xd76aa478, 0xe8c7b756, 0x242070db, 0xc1bdceee, 0xf57c0faf, 0x4787c62a, 0xa8304613,
   0xfd469501, 0x698098d8, 0x8b44f7af, 0xffff5bb1, 0x895cd7be, 0x6b901122, 0xfd987193,
   0xa679438e, 0x49b40821, 0xf61e2562, 0xc040b340, 0x265e5a51, 0xe9b6c7aa, 0xd62f105d,
   0x02441453, 0xd8a1e681, 0xe7d3fbc8, 0x21e1cde6, 0xc33707d6, 0xf4d50d87, 0x455a14ed,
   0xa9e3e905, 0xfcefa3f8, 0x676f02d9, 0x8d2a4c8a, 0xfffa3942, 0x8771f681, 0x6d9d6122,
   0xfde5380c, 0xa4beea44, 0x4bdecfa9, 0xf6bb4b60, 0xbebfbc70, 0x289b7ec6, 0xeaa127fa,
   0xd4ef3085, 0x04881d05, 0xd9d4d039, 0xe6db99e5, 0x1fa27cf8, 0xc4ac5665, 0xf4292244,
   0x432aff97, 0xab9423a7, 0xfc93a039, 0x655b59c3, 0x8f0ccc92, 0xffeff47d, 0x85845dd1,
   0x6fa87e4f, 0xfe2ce6e0, 0xa3014314, 0x4e0811a1, 0xf7537e82, 0xbd3af235, 0x2ad7d2bb,
   0xeb86d391]

/-- The rotations of the steps of each round, which repeat. -/
def rotations : Nat → List UInt32
  | 0 => [7, 12, 17, 22]
  | 1 => [5, 9, 14, 20]
  | 2 => [4, 11, 16, 23]
  | _ => [6, 10, 15, 21]

def rotateLeft (word amount : UInt32) : UInt32 :=
  (word <<< amount) ||| (word >>> (32 - amount))

/-- The mixing function of a round. -/
def mix (round : Nat) (chain : Chain) : UInt32 :=
  match round with
  | 0 => (chain.b &&& chain.c) ||| (~~~chain.b &&& chain.d)
  | 1 => (chain.d &&& chain.b) ||| (~~~chain.d &&& chain.c)
  | 2 => chain.b ^^^ chain.c ^^^ chain.d
  | _ => chain.c ^^^ (chain.b ||| ~~~chain.d)

/-- The word of the block that a step reads. -/
def wordIndex (round index : Nat) : Nat :=
  match round with
  | 0 => index % 16
  | 1 => (5 * index + 1) % 16
  | 2 => (3 * index + 5) % 16
  | _ => (7 * index) % 16

/-- One step of the 64 of a block. -/
def step (words : List UInt32) (index : Nat) (sine : UInt32) (chain : Chain) : Chain :=
  let round := index / 16
  let sum := mix round chain + chain.a + sine + words.getD (wordIndex round index) 0
  let rotation := (rotations round).getD (index % 4) 0
  ⟨chain.d, chain.b + rotateLeft sum rotation, chain.b, chain.c⟩

def steps (words : List UInt32) : Nat → List UInt32 → Chain → Chain
  | _, [], chain => chain
  | index, sine :: rest, chain => steps words (index + 1) rest (step words index sine chain)

/-- Takes a block of sixteen words in. -/
def absorb (chain : Chain) (words : List UInt32) : Chain :=
  let next := steps words 0 sines chain
  ⟨chain.a + next.a, chain.b + next.b, chain.c + next.c, chain.d + next.d⟩

/-- A number in little-endian bytes. -/
def littleEndian : Nat → Nat → List UInt8
  | 0, _ => []
  | count + 1, value => UInt8.ofNat (value % 256) :: littleEndian count (value / 256)

/-- A message with its padding: a one bit, zeros, and its length in bits. -/
def padded (message : List UInt8) : List UInt8 :=
  message ++ 0x80 :: List.replicate ((119 - message.length % 64) % 64) 0 ++
    littleEndian 8 (8 * message.length)

/-- Bytes as little-endian words. -/
def words : List UInt8 → List UInt32
  | a :: b :: c :: d :: rest =>
    (a.toUInt32 ||| (b.toUInt32 <<< 8) ||| (c.toUInt32 <<< 16) ||| (d.toUInt32 <<< 24)) ::
      words rest
  | _ => []

/-- Takes so many blocks in, one after the other. -/
def absorbAll : Nat → Chain → List UInt32 → Chain
  | 0, chain, _ => chain
  | blocks + 1, chain, words => absorbAll blocks (absorb chain (words.take 16)) (words.drop 16)

/-- The sixteen bytes of the digest of a message. -/
def digest (message : List UInt8) : List UInt8 :=
  let words := words (padded message)
  let chain := absorbAll (words.length / 16) start words
  [chain.a, chain.b, chain.c, chain.d].flatMap (fun word => littleEndian 4 word.toNat)

/-- A byte as two hexadecimal digits. -/
def byteHex (byte : UInt8) : List Char :=
  [Nat.digitChar (byte.toNat / 16), Nat.digitChar (byte.toNat % 16)]

/-- The digest of the UTF-8 bytes of a text, in hexadecimal digits. -/
def hex (text : String) : List Char := (digest text.toUTF8.data.toList).flatMap byteHex

end Md5

end SegmentPaths
