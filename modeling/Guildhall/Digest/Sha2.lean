/-
Guildhall/Digest/Sha2.lean

The SHA-2 family of message digests, for words of 32 and of 64 bits at
once.  The two differ in the width of the word, the number of rounds and
the distances of their rotations; the constants for 32 bits are the upper
halves of those for 64.  A digest is a function on lists of bytes.
-/

namespace Guildhall.Digest

/-! ### Constants -/

/-- The fractions of the cube roots of the first eighty primes. -/
def cubeRoots : List (BitVec 64) := [
  0x428a2f98d728ae22, 0x7137449123ef65cd, 0xb5c0fbcfec4d3b2f, 0xe9b5dba58189dbbc,
  0x3956c25bf348b538, 0x59f111f1b605d019, 0x923f82a4af194f9b, 0xab1c5ed5da6d8118,
  0xd807aa98a3030242, 0x12835b0145706fbe, 0x243185be4ee4b28c, 0x550c7dc3d5ffb4e2,
  0x72be5d74f27b896f, 0x80deb1fe3b1696b1, 0x9bdc06a725c71235, 0xc19bf174cf692694,
  0xe49b69c19ef14ad2, 0xefbe4786384f25e3, 0x0fc19dc68b8cd5b5, 0x240ca1cc77ac9c65,
  0x2de92c6f592b0275, 0x4a7484aa6ea6e483, 0x5cb0a9dcbd41fbd4, 0x76f988da831153b5,
  0x983e5152ee66dfab, 0xa831c66d2db43210, 0xb00327c898fb213f, 0xbf597fc7beef0ee4,
  0xc6e00bf33da88fc2, 0xd5a79147930aa725, 0x06ca6351e003826f, 0x142929670a0e6e70,
  0x27b70a8546d22ffc, 0x2e1b21385c26c926, 0x4d2c6dfc5ac42aed, 0x53380d139d95b3df,
  0x650a73548baf63de, 0x766a0abb3c77b2a8, 0x81c2c92e47edaee6, 0x92722c851482353b,
  0xa2bfe8a14cf10364, 0xa81a664bbc423001, 0xc24b8b70d0f89791, 0xc76c51a30654be30,
  0xd192e819d6ef5218, 0xd69906245565a910, 0xf40e35855771202a, 0x106aa07032bbd1b8,
  0x19a4c116b8d2d0c8, 0x1e376c085141ab53, 0x2748774cdf8eeb99, 0x34b0bcb5e19b48a8,
  0x391c0cb3c5c95a63, 0x4ed8aa4ae3418acb, 0x5b9cca4f7763e373, 0x682e6ff3d6b2b8a3,
  0x748f82ee5defb2fc, 0x78a5636f43172f60, 0x84c87814a1f0ab72, 0x8cc702081a6439ec,
  0x90befffa23631e28, 0xa4506cebde82bde9, 0xbef9a3f7b2c67915, 0xc67178f2e372532b,
  0xca273eceea26619c, 0xd186b8c721c0c207, 0xeada7dd6cde0eb1e, 0xf57d4f7fee6ed178,
  0x06f067aa72176fba, 0x0a637dc5a2c898a6, 0x113f9804bef90dae, 0x1b710b35131c471b,
  0x28db77f523047d84, 0x32caab7b40c72493, 0x3c9ebe0a15c9bebc, 0x431d67c49c100d4c,
  0x4cc5d4becb3e42b6, 0x597f299cfc657e2a, 0x5fcb6fab3ad6faec, 0x6c44198c4a475817]

/-- The fractions of the square roots of the first eight primes. -/
def squareRoots : List (BitVec 64) := [
  0x6a09e667f3bcc908, 0xbb67ae8584caa73b, 0x3c6ef372fe94f82b, 0xa54ff53a5f1d36f1,
  0x510e527fade682d1, 0x9b05688c2b3e6c1f, 0x1f83d9abfb41bd6b, 0x5be0cd19137e2179]

/-- The fractions of the square roots of the next eight primes. -/
def laterSquareRoots : List (BitVec 64) := [
  0xcbbb9d5dc1059ed8, 0x629a292a367cd507, 0x9159015a3070dd17, 0x152fecd8f70e5939,
  0x67332667ffc00b31, 0x8eb44a8768581511, 0xdb0c2e0d64f98fa7, 0x47b5481dbefa4fa4]

/-- The upper half of a word. -/
def upperHalf (x : BitVec 64) : BitVec 32 := BitVec.ofNat 32 (x.toNat >>> 32)

/-! ### The family -/

/-- What the members of the family differ in, but for the first state. -/
structure Family (w : Nat) where
  /-- One constant for each round. -/
  constants : List (BitVec w)
  /-- The rotations that mix the first word of the state. -/
  mixFirst : BitVec w → BitVec w
  /-- The rotations that mix the fifth word of the state. -/
  mixFifth : BitVec w → BitVec w
  /-- The mixing of the second word of the schedule. -/
  mixSecond : BitVec w → BitVec w
  /-- The mixing of the fifteenth word of the schedule. -/
  mixFifteenth : BitVec w → BitVec w

/-- Three rotations to the right, added bit by bit. -/
def rotations {w : Nat} (i j k : Nat) (x : BitVec w) : BitVec w :=
  x.rotateRight i ^^^ x.rotateRight j ^^^ x.rotateRight k

/-- Two rotations and a shift to the right, added bit by bit. -/
def rotationsShift {w : Nat} (i j k : Nat) (x : BitVec w) : BitVec w :=
  x.rotateRight i ^^^ x.rotateRight j ^^^ (x >>> k)

/-- Words of 32 bits and 64 rounds. -/
def narrow : Family 32 where
  constants := (cubeRoots.take 64).map upperHalf
  mixFirst := rotations 2 13 22
  mixFifth := rotations 6 11 25
  mixSecond := rotationsShift 7 18 3
  mixFifteenth := rotationsShift 17 19 10

/-- Words of 64 bits and 80 rounds. -/
def wide : Family 64 where
  constants := cubeRoots
  mixFirst := rotations 28 34 39
  mixFifth := rotations 14 18 41
  mixSecond := rotationsShift 1 8 7
  mixFifteenth := rotationsShift 19 61 6

/-! ### Bytes and words -/

/-- A number as the given count of bytes, most significant first. -/
def bigEndian : (count : Nat) → Nat → List UInt8
  | 0, _ => []
  | count + 1, n => bigEndian count (n / 256) ++ [UInt8.ofNat n]

/-- The number that bytes stand for, most significant first. -/
def ofBigEndian (bytes : List UInt8) : Nat := bytes.foldl (fun n b => 256 * n + b.toNat) 0

/-- Cuts a list into pieces of a positive length; a short rest is left out.
`count` pieces are cut. -/
def pieces {α : Type} (size : Nat) : (count : Nat) → List α → List (List α)
  | 0, _ => []
  | count + 1, xs => xs.take size :: pieces size count (xs.drop size)

/-- A message with the end mark, zeros and its length in bits, in whole blocks
of sixteen words. -/
def pad (w : Nat) (message : List UInt8) : List UInt8 :=
  let block := 2 * w
  let used := message.length + 1 + w / 4
  message ++ 0x80 :: List.replicate ((block - used % block) % block) 0 ++
    bigEndian (w / 4) (8 * message.length)

/-! ### Rounds -/

/-- The eight words that are mixed with each block. -/
structure State (w : Nat) where
  a : BitVec w
  b : BitVec w
  c : BitVec w
  d : BitVec w
  e : BitVec w
  f : BitVec w
  g : BitVec w
  h : BitVec w

/-- The words of a state, in order. -/
def State.words {w : Nat} (s : State w) : List (BitVec w) :=
  [s.a, s.b, s.c, s.d, s.e, s.f, s.g, s.h]

/-- The state of eight words; missing ones are zero. -/
def State.ofWords {w : Nat} (ws : List (BitVec w)) : State w :=
  ⟨ws.getD 0 0, ws.getD 1 0, ws.getD 2 0, ws.getD 3 0, ws.getD 4 0, ws.getD 5 0, ws.getD 6 0,
    ws.getD 7 0⟩

/-- The next word of the schedule, from the sixteen before it. -/
def nextWord {w : Nat} (family : Family w) (window : List (BitVec w)) : BitVec w :=
  family.mixFifteenth (window.getD 14 0) + window.getD 9 0 +
    family.mixSecond (window.getD 1 0) + window.getD 0 0

/-- One round: the state and the window of the schedule move by one word. -/
def round {w : Nat} (family : Family w) (now : State w × List (BitVec w)) (constant : BitVec w) :
    State w × List (BitVec w) :=
  let (s, window) := now
  let choice := (s.e &&& s.f) ^^^ (~~~s.e &&& s.g)
  let majority := (s.a &&& s.b) ^^^ (s.a &&& s.c) ^^^ (s.b &&& s.c)
  let mixed := s.h + family.mixFifth s.e + choice + constant + window.getD 0 0
  ({ a := mixed + family.mixFirst s.a + majority, b := s.a, c := s.b, d := s.c,
     e := s.d + mixed, f := s.e, g := s.f, h := s.g },
    window.tail ++ [nextWord family window])

/-- Mixes one block into a state. -/
def compress {w : Nat} (family : Family w) (s : State w) (block : List UInt8) : State w :=
  let words := (pieces (w / 8) 16 block).map fun bytes => BitVec.ofNat w (ofBigEndian bytes)
  let mixed := (family.constants.foldl (round family) (s, words)).1
  State.ofWords (List.zipWith (· + ·) s.words mixed.words)

/-- The words left after all blocks of a message. -/
def digestWords {w : Nat} (family : Family w) (start : List (BitVec w)) (message : List UInt8) :
    List (BitVec w) :=
  let padded := pad w message
  ((pieces (2 * w) (padded.length / (2 * w)) padded).foldl (compress family)
    (State.ofWords start)).words

/-- Words as bytes. -/
def wordBytes {w : Nat} (words : List (BitVec w)) : List UInt8 :=
  words.flatMap fun x => bigEndian (w / 8) x.toNat

/-! ### The members -/

/-- SHA-256. -/
def sha256 (message : List UInt8) : List UInt8 :=
  wordBytes (digestWords narrow (squareRoots.map upperHalf) message)

/-- SHA-384: the first six words of the wide digest from its own start. -/
def sha384 (message : List UInt8) : List UInt8 :=
  wordBytes ((digestWords wide laterSquareRoots message).take 6)

/-- SHA-512. -/
def sha512 (message : List UInt8) : List UInt8 :=
  wordBytes (digestWords wide squareRoots message)

end Guildhall.Digest
