import HostedLedger.Digest.Basic

/-!
# SHA-256

The 256-bit Secure Hash Algorithm. The message is padded to a whole number of 64-byte blocks,
and every block is mixed into a state of eight words by 64 rounds.

## Main definitions

* `Sha256.pad`: the message followed by its padding
* `Sha256.schedule`: the 64 words that a block supplies to the rounds
* `Sha256.compress`: the state after a block
* `sha256`: the digest of a byte string
-/

namespace HostedLedger

namespace Sha256

/-- The eight working words. -/
structure State where
  a : UInt32
  b : UInt32
  c : UInt32
  d : UInt32
  e : UInt32
  f : UInt32
  g : UInt32
  h : UInt32

/-- The state before the first block. -/
def State.initial : State :=
  ⟨0x6a09e667, 0xbb67ae85, 0x3c6ef372, 0xa54ff53a, 0x510e527f, 0x9b05688c, 0x1f83d9ab, 0x5be0cd19⟩

/-- The sum of two states, word by word. -/
def State.add (s t : State) : State :=
  ⟨s.a + t.a, s.b + t.b, s.c + t.c, s.d + t.d, s.e + t.e, s.f + t.f, s.g + t.g, s.h + t.h⟩

/-- The words of a state, in order. -/
def State.words (s : State) : List UInt32 := [s.a, s.b, s.c, s.d, s.e, s.f, s.g, s.h]

/-- The constant that each of the 64 rounds adds. -/
def roundConstants : List UInt32 :=
  [0x428a2f98, 0x71374491, 0xb5c0fbcf, 0xe9b5dba5, 0x3956c25b, 0x59f111f1, 0x923f82a4, 0xab1c5ed5,
   0xd807aa98, 0x12835b01, 0x243185be, 0x550c7dc3, 0x72be5d74, 0x80deb1fe, 0x9bdc06a7, 0xc19bf174,
   0xe49b69c1, 0xefbe4786, 0x0fc19dc6, 0x240ca1cc, 0x2de92c6f, 0x4a7484aa, 0x5cb0a9dc, 0x76f988da,
   0x983e5152, 0xa831c66d, 0xb00327c8, 0xbf597fc7, 0xc6e00bf3, 0xd5a79147, 0x06ca6351, 0x14292967,
   0x27b70a85, 0x2e1b2138, 0x4d2c6dfc, 0x53380d13, 0x650a7354, 0x766a0abb, 0x81c2c92e, 0x92722c85,
   0xa2bfe8a1, 0xa81a664b, 0xc24b8b70, 0xc76c51a3, 0xd192e819, 0xd6990624, 0xf40e3585, 0x106aa070,
   0x19a4c116, 0x1e376c08, 0x2748774c, 0x34b0bcb5, 0x391c0cb3, 0x4ed8aa4a, 0x5b9cca4f, 0x682e6ff3,
   0x748f82ee, 0x78a5636f, 0x84c87814, 0x8cc70208, 0x90befffa, 0xa4506ceb, 0xbef9a3f7, 0xc67178f2]

/-- Rotation to the right by `n` bits, for `0 < n < 32`. -/
def rotate (x n : UInt32) : UInt32 := (x >>> n) ||| (x <<< (32 - n))

/-- The word of four bytes, most significant byte first. -/
def word (bs : Bytes) : UInt32 := bs.foldl (fun w b => (w <<< 8) ||| b.toUInt32) 0

/-- The four bytes of a word, most significant byte first. -/
def wordBytes (w : UInt32) : Bytes := (Bytes.ofUInt32 w).reverse

@[simp] theorem length_wordBytes (w : UInt32) : (wordBytes w).length = 4 := by
  simp [wordBytes]

/-- The message, one byte `0x80`, zero bytes, and the length in bits in eight bytes: a whole
number of blocks. -/
def pad (message : Bytes) : Bytes :=
  message ++ 0x80 :: List.replicate ((119 - message.length % 64) % 64) 0 ++
    (Bytes.ofNat 8 (8 * message.length)).reverse

/-- The word that follows a window of sixteen consecutive words of a schedule. -/
def nextWord (window : List UInt32) : UInt32 :=
  let s0 (x : UInt32) := rotate x 7 ^^^ rotate x 18 ^^^ (x >>> 3)
  let s1 (x : UInt32) := rotate x 17 ^^^ rotate x 19 ^^^ (x >>> 10)
  -- The places are those of the words 2, 7, 15 and 16 before the new one.
  s1 (window.getD 14 0) + window.getD 9 0 + s0 (window.getD 1 0) + window.getD 0 0

/-- The first `count` words of the schedule that starts with the window. -/
def schedule : (count : Nat) → (window : List UInt32) → List UInt32
  | 0, _ => []
  | count + 1, window =>
    window.getD 0 0 :: schedule count (window.tail ++ [nextWord window])

/-- One round: it takes a constant and a word of the schedule. -/
def round (s : State) (k w : UInt32) : State :=
  let s1 := rotate s.e 6 ^^^ rotate s.e 11 ^^^ rotate s.e 25
  let choice := (s.e &&& s.f) ^^^ (~~~s.e &&& s.g)
  let t1 := s.h + s1 + choice + k + w
  let s0 := rotate s.a 2 ^^^ rotate s.a 13 ^^^ rotate s.a 22
  let majority := (s.a &&& s.b) ^^^ (s.a &&& s.c) ^^^ (s.b &&& s.c)
  ⟨t1 + (s0 + majority), s.a, s.b, s.c, s.d + t1, s.e, s.f, s.g⟩

/-- The state after a block of 64 bytes. -/
def compress (s : State) (block : Bytes) : State :=
  let words := schedule 64 ((Bytes.chunks 4 block).map word)
  s.add ((roundConstants.zip words).foldl (fun t (k, w) => round t k w) s)

end Sha256

/-- The SHA-256 digest of a byte string. -/
def sha256 (message : Bytes) : Digest :=
  let final := (Bytes.chunks 64 (Sha256.pad message)).foldl Sha256.compress Sha256.State.initial
  ⟨final.words.flatMap Sha256.wordBytes, by simp [Sha256.State.words]⟩

end HostedLedger
