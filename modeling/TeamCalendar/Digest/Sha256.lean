import TeamCalendar.Chunks

/-!
# SHA-256

The secure hash algorithm with a digest of 256 bits.  A message is padded to blocks of 64 bytes; each
block is stretched to 64 words, and as many rounds stir them into a state of eight words.
-/

namespace TeamCalendar.Digest.Sha256

/-- The state of eight words. -/
structure State where
  /-- The first word. -/
  a : UInt32
  /-- The second word. -/
  b : UInt32
  /-- The third word. -/
  c : UInt32
  /-- The fourth word. -/
  d : UInt32
  /-- The fifth word. -/
  e : UInt32
  /-- The sixth word. -/
  f : UInt32
  /-- The seventh word. -/
  g : UInt32
  /-- The eighth word. -/
  h : UInt32

/-- The state before the first block. -/
def State.initial : State :=
  ⟨0x6a09e667, 0xbb67ae85, 0x3c6ef372, 0xa54ff53a, 0x510e527f, 0x9b05688c, 0x1f83d9ab, 0x5be0cd19⟩

/-- The constants of the rounds. -/
def roundConstants : List UInt32 :=
  [0x428a2f98, 0x71374491, 0xb5c0fbcf, 0xe9b5dba5, 0x3956c25b, 0x59f111f1, 0x923f82a4, 0xab1c5ed5,
   0xd807aa98, 0x12835b01, 0x243185be, 0x550c7dc3, 0x72be5d74, 0x80deb1fe, 0x9bdc06a7, 0xc19bf174,
   0xe49b69c1, 0xefbe4786, 0x0fc19dc6, 0x240ca1cc, 0x2de92c6f, 0x4a7484aa, 0x5cb0a9dc, 0x76f988da,
   0x983e5152, 0xa831c66d, 0xb00327c8, 0xbf597fc7, 0xc6e00bf3, 0xd5a79147, 0x06ca6351, 0x14292967,
   0x27b70a85, 0x2e1b2138, 0x4d2c6dfc, 0x53380d13, 0x650a7354, 0x766a0abb, 0x81c2c92e, 0x92722c85,
   0xa2bfe8a1, 0xa81a664b, 0xc24b8b70, 0xc76c51a3, 0xd192e819, 0xd6990624, 0xf40e3585, 0x106aa070,
   0x19a4c116, 0x1e376c08, 0x2748774c, 0x34b0bcb5, 0x391c0cb3, 0x4ed8aa4a, 0x5b9cca4f, 0x682e6ff3,
   0x748f82ee, 0x78a5636f, 0x84c87814, 0x8cc70208, 0x90befffa, 0xa4506ceb, 0xbef9a3f7, 0xc67178f2]

/-- Turns a word to the right; `count` is between 1 and 31. -/
def rotate (word count : UInt32) : UInt32 :=
  (word >>> count) ||| (word <<< (32 - count))

/-- The number that bytes stand for, the highest one first. -/
def wordOf (bytes : List UInt8) : UInt32 :=
  bytes.foldl (fun word byte => (word <<< 8) ||| byte.toUInt32) 0

/-- The four bytes of a word, the highest one first. -/
def bytesOfWord (word : UInt32) : List UInt8 :=
  [(word >>> 24).toUInt8, (word >>> 16).toUInt8, (word >>> 8).toUInt8, word.toUInt8]

/-- Adds a word to those of a block, which are given backwards. -/
def stretch (words : List UInt32) : List UInt32 :=
  let near := words.getD 1 0
  let far := words.getD 14 0
  let nearMix := rotate near 17 ^^^ rotate near 19 ^^^ (near >>> 10)
  let farMix := rotate far 7 ^^^ rotate far 18 ^^^ (far >>> 3)
  (nearMix + words.getD 6 0 + farMix + words.getD 15 0) :: words

/-- The words for the rounds of a block. -/
def schedule (block : List UInt8) : List UInt32 :=
  (Nat.repeat stretch 48 ((chunks 3 block).map wordOf).reverse).reverse

/-- One round with its word and its constant added up. -/
def State.round (s : State) (word : UInt32) : State :=
  let mixE := rotate s.e 6 ^^^ rotate s.e 11 ^^^ rotate s.e 25
  let choice := (s.e &&& s.f) ^^^ (~~~s.e &&& s.g)
  let mixA := rotate s.a 2 ^^^ rotate s.a 13 ^^^ rotate s.a 22
  let majority := (s.a &&& s.b) ^^^ (s.a &&& s.c) ^^^ (s.b &&& s.c)
  let first := s.h + mixE + choice + word
  ⟨first + mixA + majority, s.a, s.b, s.c, s.d + first, s.e, s.f, s.g⟩

/-- Adds two states word by word. -/
def State.add (s t : State) : State :=
  ⟨s.a + t.a, s.b + t.b, s.c + t.c, s.d + t.d, s.e + t.e, s.f + t.f, s.g + t.g, s.h + t.h⟩

/-- Stirs a block into the state. -/
def State.absorb (s : State) (block : List UInt8) : State :=
  s.add ((List.zipWith (· + ·) (schedule block) roundConstants).foldl State.round s)

/-- The bytes of the state. -/
def State.bytes (s : State) : List UInt8 :=
  [s.a, s.b, s.c, s.d, s.e, s.f, s.g, s.h].flatMap bytesOfWord

/-- Fills a message up to whole blocks: a one bit, zero bits, and the number of its bits. -/
def pad (message : List UInt8) : List UInt8 :=
  let length := message.length
  let bits := UInt64.ofNat (8 * length)
  message ++ (0x80 : UInt8) :: List.replicate ((119 - length % 64) % 64) 0 ++
    bytesOfWord (bits >>> 32).toUInt32 ++ bytesOfWord bits.toUInt32

/-- The digest of a message, 32 bytes. -/
def digest (message : List UInt8) : List UInt8 :=
  ((chunks 63 (pad message)).foldl State.absorb State.initial).bytes

theorem length_bytes (s : State) : s.bytes.length = 32 :=
  rfl

theorem length_digest (message : List UInt8) : (digest message).length = 32 :=
  length_bytes _

end TeamCalendar.Digest.Sha256
