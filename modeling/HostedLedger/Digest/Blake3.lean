import HostedLedger.Digest.Basic

/-!
# BLAKE3

The unkeyed BLAKE3 hash with an output of 32 bytes. The message is cut into chunks of 1024 bytes,
which are the leaves of a binary tree; the left part of an inner node holds the largest power of
two of chunks that leaves at least one for the right part.

The sixteen words of the compression state are four rows of four words. A round mixes the
columns, then the diagonals, which are the columns after the rows have been rotated by 0, 1, 2
and 3 places.

## Main definitions

* `Blake3.Row`, `Blake3.mix`: rows of words and the mixing of four rows
* `Blake3.compress`: the chaining value of a block
* `Blake3.chunkNode`, `Blake3.treeNode`: the last compression of a chunk and of a subtree
* `blake3`: the digest of a byte string
-/

namespace HostedLedger

namespace Blake3

/-- Four words. -/
structure Row where
  x : UInt32
  y : UInt32
  z : UInt32
  w : UInt32

namespace Row

/-- Combines two rows word by word. -/
def zipWith (f : UInt32 → UInt32 → UInt32) (r s : Row) : Row :=
  ⟨f r.x s.x, f r.y s.y, f r.z s.z, f r.w s.w⟩

/-- Moves every word one place to the left, around the end. -/
def turn (r : Row) : Row := ⟨r.y, r.z, r.w, r.x⟩

/-- The words of a row, in order. -/
def words (r : Row) : List UInt32 := [r.x, r.y, r.z, r.w]

/-- The row of the words at four places of a list. -/
def select (ws : List UInt32) (i j k l : Nat) : Row :=
  ⟨ws.getD i 0, ws.getD j 0, ws.getD k 0, ws.getD l 0⟩

end Row

/-- Eight words: the value that a node passes on. -/
structure ChainingValue where
  low : Row
  high : Row

/-- The words of a chaining value, in order. -/
def ChainingValue.words (v : ChainingValue) : List UInt32 := v.low.words ++ v.high.words

/-- The bytes of a chaining value. -/
def ChainingValue.bytes (v : ChainingValue) : Bytes := v.words.flatMap Bytes.ofUInt32

@[simp] theorem ChainingValue.length_bytes (v : ChainingValue) : v.bytes.length = 32 := by
  simp [ChainingValue.bytes, ChainingValue.words, Row.words]

/-- The chaining value that every chunk starts from. -/
def ChainingValue.initial : ChainingValue :=
  ⟨⟨0x6a09e667, 0xbb67ae85, 0x3c6ef372, 0xa54ff53a⟩,
   ⟨0x510e527f, 0x9b05688c, 0x1f83d9ab, 0x5be0cd19⟩⟩

/-- Four rows: the state of a compression. -/
structure State where
  r0 : Row
  r1 : Row
  r2 : Row
  r3 : Row

/-- Rotation to the right by `n` bits, for `0 < n < 32`. -/
def rotate (n x : UInt32) : UInt32 := (x >>> n) ||| (x <<< (32 - n))

/-- Mixes the four columns of the state with two rows of message words. -/
def mix (s : State) (m n : Row) : State :=
  let add := Row.zipWith (· + ·)
  let turnXor (k : UInt32) := Row.zipWith fun x y => rotate k (x ^^^ y)
  let r0 := add (add s.r0 s.r1) m
  let r3 := turnXor 16 s.r3 r0
  let r2 := add s.r2 r3
  let r1 := turnXor 12 s.r1 r2
  let r0 := add (add r0 r1) n
  let r3 := turnXor 8 r3 r0
  let r2 := add r2 r3
  let r1 := turnXor 7 r1 r2
  ⟨r0, r1, r2, r3⟩

/-- Brings the diagonals into the columns. -/
def State.skew (s : State) : State := ⟨s.r0, s.r1.turn, s.r2.turn.turn, s.r3.turn.turn.turn⟩

/-- Brings the columns back into the diagonals. -/
def State.unskew (s : State) : State := ⟨s.r0, s.r1.turn.turn.turn, s.r2.turn.turn, s.r3.turn⟩

/-- One round over sixteen message words: the columns, then the diagonals. -/
def round (s : State) (m : List UInt32) : State :=
  let columns := mix s (Row.select m 0 2 4 6) (Row.select m 1 3 5 7)
  let diagonals := mix columns.skew (Row.select m 8 10 12 14) (Row.select m 9 11 13 15)
  diagonals.unskew

/-- The order in which a round leaves the message words to the next one. -/
def permute (m : List UInt32) : List UInt32 :=
  [2, 6, 3, 10, 7, 0, 4, 13, 1, 11, 12, 5, 9, 14, 15, 8].map fun i => m.getD i 0

/-- The given number of rounds. -/
def rounds : (count : Nat) → State → List UInt32 → State
  | 0, s, _ => s
  | count + 1, s, m => rounds count (round s m) (permute m)

/-- A compression that is still to be run: the last one of a chunk or of an inner node. -/
structure Node where
  /-- The value passed on so far. -/
  chaining : ChainingValue
  /-- The block, of at most 64 bytes. -/
  block : Bytes
  /-- The number of the chunk; zero for an inner node. -/
  counter : Nat
  /-- What the block is: the start or end of a chunk, an inner node, the root. -/
  flags : UInt32

/-- Marks the first block of a chunk. -/
def chunkStart : UInt32 := 1

/-- Marks the last block of a chunk. -/
def chunkEnd : UInt32 := 2

/-- Marks an inner node. -/
def parent : UInt32 := 4

/-- Marks the root of the tree. -/
def root : UInt32 := 8

/-- The sixteen words of a block, which zero bytes fill up. -/
def blockWords (block : Bytes) : List UInt32 :=
  (Bytes.chunks 4 (block ++ List.replicate (64 - block.length) 0)).map fun bs =>
    UInt32.ofNat (Bytes.toNat bs)

/-- Runs a compression. -/
def compress (n : Node) : ChainingValue :=
  let v := ChainingValue.initial
  let tail : Row :=
    ⟨UInt32.ofNat n.counter, UInt32.ofNat (n.counter / UInt32.size),
      UInt32.ofNat n.block.length, n.flags⟩
  let s := rounds 7 ⟨n.chaining.low, n.chaining.high, v.low, tail⟩ (blockWords n.block)
  ⟨Row.zipWith (· ^^^ ·) s.r0 s.r2, Row.zipWith (· ^^^ ·) s.r1 s.r3⟩

/-- The last compression of a chunk, given the blocks that are left of it. -/
def chunkNodeFrom (counter : Nat) (v : ChainingValue) (flags : UInt32) : List Bytes → Node
  | [] => ⟨v, [], counter, flags ||| chunkEnd⟩
  | [block] => ⟨v, block, counter, flags ||| chunkEnd⟩
  | block :: blocks => chunkNodeFrom counter (compress ⟨v, block, counter, flags⟩) 0 blocks

/-- The last compression of a chunk of at most 1024 bytes. -/
def chunkNode (counter : Nat) (chunk : Bytes) : Node :=
  chunkNodeFrom counter ChainingValue.initial chunkStart (Bytes.chunks 64 chunk)

/-- The number of chunks in the left part of an input of more than 1024 bytes. -/
def leftChunks (size : Nat) : Nat := 1 <<< ((size - 1) / 1024).log2

theorem leftChunks_pos (size : Nat) : 0 < leftChunks size := by
  rw [leftChunks, Nat.one_shiftLeft]
  exact Nat.two_pow_pos _

theorem leftChunks_lt {size : Nat} (h : 1024 < size) : 1024 * leftChunks size < size := by
  have : leftChunks size ≤ (size - 1) / 1024 := by
    rw [leftChunks, Nat.one_shiftLeft]
    exact Nat.log2_self_le (by omega)
  omega

/-- The last compression of the subtree over an input whose first chunk has the given number. -/
def treeNode (counter : Nat) (input : Bytes) : Node :=
  if _ : 1024 < input.length then
    let left := leftChunks input.length
    let l := compress (treeNode counter (input.take (1024 * left)))
    let r := compress (treeNode (counter + left) (input.drop (1024 * left)))
    ⟨ChainingValue.initial, l.bytes ++ r.bytes, 0, parent⟩
  else
    chunkNode counter input
termination_by input.length
decreasing_by
  · rw [List.length_take]
    have := leftChunks_lt ‹_›
    omega
  · rw [List.length_drop]
    have := leftChunks_pos input.length
    omega

end Blake3

/-- The BLAKE3 digest of a byte string. -/
def blake3 (message : Bytes) : Digest :=
  -- The last compression of the whole tree is run once more, marked as the root.
  let node := Blake3.treeNode 0 message
  ⟨(Blake3.compress ⟨node.chaining, node.block, node.counter, node.flags ||| Blake3.root⟩).bytes,
   by simp⟩

end HostedLedger
