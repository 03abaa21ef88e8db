import HostedLedger.Bytes.Lemmas
import HostedLedger.Merkle
import HostedLedger.SortedMap.Insertions
import Mathlib.Data.Nat.Log
import Mathlib.Order.Bounds.Basic

/-!
# The shape of Merkle trees

A root is computed level by level, from neighbours in pairs. It is also the digest of the roots of
two smaller trees: one over the first leaves, as many as the largest power of two below their
number, and one over the others. The first tree is full, so pairing never crosses the border between
the two, on any level.

The leaves of a map are its entries in the order of their keys. They depend on the last value of
each key only, and so does the root.

## Main definitions

* `Merkle.leftSize`: the number of leaves in the first one of the two smaller trees
* `Merkle.splitRoot`: the root by recursion on the two smaller trees
* `MerkleTree.FinalEntries`: what is left of a sequence of insertions

## Main results

* `Merkle.isGreatest_leftSize`: the first tree is over as many leaves as the largest power of two
  below the number of leaves
* `Merkle.splitRoot_pairUp`: the root by splitting is the same one level up
* `Merkle.root_eq_splitRoot`: both recursions come to the same root
* `Merkle.roots_by_splitting`: the roots of maps and of lists of digests
-/

namespace HostedLedger

/-- Byte strings are compared byte by byte from the front. -/
theorem Bytes.compare_eq_lt_iff {a b : Bytes} : compare a b = .lt ↔ a < b := by
  induction a generalizing b with
  | nil => cases b <;> simp [compare, List.compareLex]
  | cons x a ih =>
    cases b with
    | nil => simp [compare, List.compareLex]
    | cons y b =>
      have hcons : compare (x :: a) (y :: b) = (compare x y).then (compare a b) :=
        List.compareLex_cons_cons
      rw [hcons, Ordering.then_eq_lt, ih, Std.compare_eq_lt, Std.compare_eq_iff_eq,
        List.cons_lt_cons_iff]

namespace Merkle

/-! ### The border between the two subtrees -/

/-- The largest power of two below a number of leaves. -/
def leftSize (n : Nat) : Nat := 2 ^ Nat.log 2 (n - 1)

theorem leftSize_pos (n : Nat) : 0 < leftSize n := Nat.two_pow_pos _

theorem leftSize_lt {n : Nat} (h : 2 ≤ n) : leftSize n < n := by
  have hle : leftSize n ≤ n - 1 := Nat.pow_log_le_self 2 (by omega)
  omega

theorem isGreatest_leftSize {n : Nat} (h : 2 ≤ n) :
    IsGreatest {k | k < n ∧ ∃ j, k = 2 ^ j} (leftSize n) := by
  refine ⟨⟨leftSize_lt h, _, rfl⟩, ?_⟩
  rintro _ ⟨hlt, j, rfl⟩
  have hj : j ≤ Nat.log 2 (n - 1) := Nat.le_log_of_pow_le (by decide) (by omega)
  exact Nat.pow_le_pow_right (by decide) hj

/-- One level up there are half as many nodes, and half as many of them on the left. -/
theorem leftSize_half {n : Nat} (h : 3 ≤ n) : 2 * leftSize ((n + 1) / 2) = leftSize n := by
  have hhalf : (n + 1) / 2 - 1 = (n - 1) / 2 := by omega
  have hlog : 0 < Nat.log 2 (n - 1) := Nat.log_pos (by decide) (by omega)
  rw [leftSize, hhalf, Nat.log_div_base, leftSize, ← Nat.pow_succ']
  congr 1
  omega

/-! ### The root from two subtrees -/

/-- The root of a list of leaves: the digest of a byte one and the roots over the first leaves, as
many as the largest power of two below their number, and over the others. -/
def splitRoot : List Digest → Digest
  | [] => Digest.zero
  | [top] => top
  | left :: right :: rest =>
    let level := left :: right :: rest
    blake3 (1 :: ((splitRoot (level.take (leftSize level.length))).bytes ++
      (splitRoot (level.drop (leftSize level.length))).bytes))
termination_by level => level.length
decreasing_by
  · have := leftSize_lt (n := (left :: right :: rest).length) (by simp)
    rw [List.length_take]
    omega
  · have := leftSize_pos (left :: right :: rest).length
    rw [List.length_drop]
    simp only [List.length_cons] at this ⊢
    omega

theorem splitRoot_singleton (d : Digest) : splitRoot [d] = d := by rw [splitRoot]

theorem splitRoot_of_two_le {level : List Digest} (h : 2 ≤ level.length) :
    splitRoot level = inner (splitRoot (level.take (leftSize level.length)))
      (splitRoot (level.drop (leftSize level.length))) := by
  match level, h with
  | left :: right :: rest, _ => rw [splitRoot, inner, innerPreimage]

/-- An even number of nodes has no neighbour among the nodes that follow. -/
theorem pairUp_append {xs ys : List Digest} (h : xs.length % 2 = 0) :
    pairUp (xs ++ ys) = pairUp xs ++ pairUp ys := by
  fun_induction pairUp xs with
  | case1 left right rest ih =>
    simp only [List.length_cons] at h
    rw [List.cons_append, List.cons_append, pairUp, ih (by omega), List.cons_append]
  | case2 level hlevel =>
    match level, hlevel with
    | [], _ => rfl
    | [_], _ => simp at h
    | left :: right :: rest, hlevel => exact absurd rfl (hlevel left right rest)

/-- The border between the subtrees of the level above lies where that of the level does. -/
theorem pairUp_take_drop {level : List Digest} (h : 3 ≤ level.length) :
    (pairUp level).take (leftSize (pairUp level).length) =
        pairUp (level.take (leftSize level.length)) ∧
      (pairUp level).drop (leftSize (pairUp level).length) =
        pairUp (level.drop (leftSize level.length)) := by
  have hhalf := leftSize_half h
  have hlt : leftSize level.length < level.length := leftSize_lt (by omega)
  have htake : (level.take (leftSize level.length)).length = leftSize level.length :=
    List.length_take_of_le hlt.le
  have hpairs : pairUp level =
      pairUp (level.take (leftSize level.length)) ++
        pairUp (level.drop (leftSize level.length)) := by
    rw [← pairUp_append (by omega), List.take_append_drop]
  have hleft : (pairUp (level.take (leftSize level.length))).length =
      leftSize (pairUp level).length := by
    rw [length_pairUp, length_pairUp, htake]
    omega
  constructor
  · rw [← hleft, hpairs, List.take_left]
  · rw [← hleft, hpairs, List.drop_left]

/-- The root by splitting is the same one level up. -/
theorem splitRoot_pairUp (level : List Digest) : splitRoot (pairUp level) = splitRoot level := by
  -- Both subtrees are shorter than the tree, so the induction is on the number of leaves.
  induction hn : level.length using Nat.strongRecOn generalizing level with
  | ind n ih =>
    rcases Nat.lt_or_ge level.length 3 with hshort | hlong
    · match level, hshort with
      | [], _ => rfl
      | [_], _ => rfl
      | [left, right], _ =>
        have hsplit : splitRoot [left, right] = inner (splitRoot [left]) (splitRoot [right]) :=
          splitRoot_of_two_le (by simp)
        rw [hsplit, splitRoot_singleton, splitRoot_singleton]
        exact splitRoot_singleton _
    · have hlt : leftSize level.length < level.length := leftSize_lt (by omega)
      have hpos := leftSize_pos level.length
      obtain ⟨htake, hdrop⟩ := pairUp_take_drop hlong
      rw [splitRoot_of_two_le (by rw [length_pairUp]; omega), htake, hdrop,
        ih _ (by rw [List.length_take]; omega) _ rfl, ih _ (by rw [List.length_drop]; omega) _ rfl,
        ← splitRoot_of_two_le (by omega)]

/-- **Pairing neighbours level by level and splitting come to the same root.** -/
theorem root_eq_splitRoot (level : List Digest) : root level = splitRoot level := by
  fun_induction root level with
  | case1 => rw [splitRoot]
  | case2 top => rw [splitRoot_singleton]
  | case3 left right rest ih => rw [ih, splitRoot_pairUp]

end Merkle

/-! ### Roots of maps and lists -/

namespace MerkleTree

/-- What is left of a sequence of insertions: each key with the value that was inserted last, in
strictly ascending order of the bytes of the keys. -/
structure FinalEntries (inserts entries : List (Bytes × Bytes)) : Prop where
  ascending : entries.Pairwise fun e f => e.1 < f.1
  mem_iff : ∀ k v, (k, v) ∈ entries ↔ SortedMap.lastValue? inserts k = some v

theorem finalEntries_insertMany (inserts : List (Bytes × Bytes)) :
    FinalEntries inserts (SortedMap.insertMany ∅ inserts : MerkleTree).entries where
  ascending := (SortedMap.sorted _).imp Bytes.compare_eq_lt_iff.mp
  mem_iff k v := by rw [← SortedMap.get?_eq_some_iff, SortedMap.get?_insertMany_empty]

end MerkleTree

/-- **Roots by splitting.** The root of a map is that of the leaves of its final entries, and the
root of a list of digests is that of their leaves in the order of the list, where the root of two
leaves or more is the digest of a byte one and the roots over the first leaves, as many as the
largest power of two below their number, and over the others. A leaf is the digest of a byte zero,
the length of the key in four bytes, the lowest one first, the key and the value. So insertions with
the same final values lead to the same root, in whatever order they are made. -/
theorem Merkle.roots_by_splitting :
    let leafDigest (key value : Bytes) : Digest :=
      blake3 (0 :: ((List.range 4).map (fun i => (key.length / 256 ^ i).toUInt8) ++ key ++ value))
    (∀ n, 2 ≤ n → IsGreatest {k | k < n ∧ ∃ j, k = 2 ^ j} (leftSize n)) ∧
    (∀ inserts : List (Bytes × Bytes),
      let tree : MerkleTree := .insertMany ∅ inserts
      MerkleTree.FinalEntries inserts tree.entries ∧
        tree.root = (if inserts = [] then Digest.zero
          else splitRoot (tree.entries.map fun e => leafDigest e.1 e.2)) ∧
        tree.size = (inserts.map (·.1)).toFinset.card) ∧
    (∀ items, orderedRoot items = splitRoot (items.map fun d => leafDigest [] d.bytes)) ∧
    ∀ inserts inserts', (∀ k, SortedMap.lastValue? inserts k = SortedMap.lastValue? inserts' k) →
      MerkleTree.root (.insertMany ∅ inserts) = MerkleTree.root (.insertMany ∅ inserts') := by
  intro leafDigest
  have hleaf : leaf = leafDigest := by
    funext key value
    rw [leaf, leafPreimage, Bytes.ofNat_eq_map_range]
  rw [← hleaf]
  refine ⟨fun n => isGreatest_leftSize, fun inserts => ?_, fun items => ?_, ?_⟩
  · intro tree
    refine ⟨MerkleTree.finalEntries_insertMany inserts, ?_, SortedMap.size_insertMany_empty inserts⟩
    split
    · next hnil =>
      subst hnil
      show root [] = Digest.zero
      rw [root]
    · exact root_eq_splitRoot _
  · exact root_eq_splitRoot _
  · intro inserts inserts' h
    rw [SortedMap.insertMany_empty_eq h]

/-- A key is inserted twice and the keys come in no order; three leaves split into two and one. -/
theorem Merkle.roots_by_splitting_overwrittenKey :
    let inserts : List (Bytes × Bytes) := [([3], [30]), ([1], [0]), ([2], [20]), ([1], [10])]
    let inserts' : List (Bytes × Bytes) := [([1], [10]), ([2], [20]), ([3], [30])]
    let node (left right : Digest) : Digest := blake3 (1 :: (left.bytes ++ right.bytes))
    (∀ k, SortedMap.lastValue? inserts k = SortedMap.lastValue? inserts' k) ∧
      MerkleTree.root (.insertMany ∅ inserts) = MerkleTree.root (.insertMany ∅ inserts') ∧
      MerkleTree.root (.insertMany ∅ inserts) =
        node (node (blake3 [0, 1, 0, 0, 0, 1, 10]) (blake3 [0, 1, 0, 0, 0, 2, 20]))
          (blake3 [0, 1, 0, 0, 0, 3, 30]) := by
  intro inserts inserts' node
  obtain ⟨-, htree, -, hsame⟩ := roots_by_splitting
  have hlast : ∀ k, SortedMap.lastValue? inserts k = SortedMap.lastValue? inserts' k := by
    intro k
    by_cases h1 : k = [1]
    · subst h1
      decide
    by_cases h2 : k = [2]
    · subst h2
      decide
    by_cases h3 : k = [3]
    · subst h3
      decide
    simp [SortedMap.lastValue?, inserts, inserts', Ne.symm h1, Ne.symm h2, Ne.symm h3]
  obtain ⟨-, hroot, -⟩ := htree inserts
  refine ⟨hlast, hsame _ _ hlast, hroot.trans ?_⟩
  have hentries : (SortedMap.insertMany ∅ inserts : MerkleTree).entries = inserts' := by decide
  have htwo (a b : Digest) : splitRoot [a, b] = node (splitRoot [a]) (splitRoot [b]) :=
    splitRoot_of_two_le (by simp)
  have hthree (a b c : Digest) : splitRoot [a, b, c] = node (splitRoot [a, b]) (splitRoot [c]) :=
    splitRoot_of_two_le (by simp)
  rw [if_neg (by decide), hentries]
  simp only [inserts', List.map_cons, List.map_nil, hthree, htwo, splitRoot_singleton]
  rfl

end HostedLedger
