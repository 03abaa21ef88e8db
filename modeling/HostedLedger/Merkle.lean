import HostedLedger.Digest.Blake3
import HostedLedger.SortedMap.Basic

/-!
# Merkle trees

The root of a binary hash tree over a list of leaves. A level is made from the one below by hashing
neighbours in pairs; a node without a neighbour moves up as it is. Leaves and inner nodes are hashed
after different first bytes, so no leaf can pass for an inner node.

## Main definitions

* `Merkle.leaf`, `Merkle.inner`: the digests of a leaf and of an inner node
* `Merkle.pairUp`: the level above a level
* `Merkle.root`: the root of a list of leaves
* `Merkle.orderedRoot`: the root of a list of digests
* `MerkleTree`: a map from keys to values, whose root does not depend on the order of insertion
-/

namespace HostedLedger

namespace Merkle

/-- What is hashed for a leaf: a zero byte, the length of the key in four bytes, the key and the
value. -/
def leafPreimage (key value : Bytes) : Bytes :=
  0 :: (Bytes.ofNat 4 key.length ++ key ++ value)

/-- What is hashed for an inner node: a byte one and the digests below it. -/
def innerPreimage (left right : Digest) : Bytes := 1 :: (left.bytes ++ right.bytes)

/-- The digest of a leaf. -/
def leaf (key value : Bytes) : Digest := blake3 (leafPreimage key value)

/-- The digest of an inner node. -/
def inner (left right : Digest) : Digest := blake3 (innerPreimage left right)

/-- The level above a level. -/
def pairUp : List Digest → List Digest
  | left :: right :: rest => inner left right :: pairUp rest
  | level => level

theorem length_pairUp (level : List Digest) : (pairUp level).length = (level.length + 1) / 2 := by
  fun_induction pairUp level with
  | case1 left right rest ih =>
    simp only [List.length_cons, ih]
    omega
  | case2 level h =>
    match level, h with
    | [], _ => rfl
    | [_], _ => simp
    | left :: right :: rest, h => exact absurd rfl (h left right rest)

/-- The root of a list of leaves; the zero digest if there are none. -/
def root : List Digest → Digest
  | [] => Digest.zero
  | [top] => top
  | left :: right :: rest => root (pairUp (left :: right :: rest))
termination_by level => level.length
decreasing_by
  simp only [length_pairUp, List.length_cons]
  omega

/-- The root of a list of digests, in their order. -/
def orderedRoot (items : List Digest) : Digest := root (items.map fun d => leaf [] d.bytes)

end Merkle

/-- Keys and their values. -/
abbrev MerkleTree := SortedMap Bytes Bytes

namespace MerkleTree

/-- The leaves in the order of their keys. -/
def leaves (t : MerkleTree) : List Digest := t.entries.map fun e => Merkle.leaf e.1 e.2

/-- The root over the leaves. -/
def root (t : MerkleTree) : Digest := Merkle.root t.leaves

end MerkleTree

end HostedLedger
