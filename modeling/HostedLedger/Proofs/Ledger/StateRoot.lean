import HostedLedger.Proofs.Ledger.Call
import HostedLedger.Proofs.Merkle.Binding
import HostedLedger.SortedMap.Lemmas

/-!
# What the state root commits to

The tree of the accounts of a ledger holds, under the bytes of every address that has an account,
the balance and the nonce in eight bytes each. So accounts are known by their tree, and the state
root commits to them as the root of any tree commits to its entries.

## Main results

* `Accounts.get?_tree`: what the tree holds
* `Accounts.tree_injective`: the tree tells the accounts
* `Accounts.eqUpToDigests_of_stateRoot_eq`: accounts with one root are equal, up to a collision
* `Merkle.roots_commit`: the same for ledgers, maps and lists of digests
-/

namespace HostedLedger

theorem Account.leaf_injective : Function.Injective Account.leaf := by
  intro a b h
  have hlength : (Bytes.ofUInt64 a.balance).length = (Bytes.ofUInt64 b.balance).length := by simp
  obtain ⟨hbalance, hnonce⟩ := List.append_inj h hlength
  have hbalance := congrArg Bytes.toNat hbalance
  have hnonce := congrArg Bytes.toNat hnonce
  rw [Bytes.toNat_ofUInt64, Bytes.toNat_ofUInt64, UInt64.toNat_inj] at hbalance hnonce
  cases a
  cases b
  cases hbalance
  cases hnonce
  rfl

theorem Utf8.encode_injective : Function.Injective Utf8.encode := fun _ _ => Utf8.encode_inj.mp

namespace Accounts

/-- The tree holds the leaf of every account under the bytes of its address. -/
theorem get?_tree (accounts : Accounts) (address : String) :
    accounts.tree.get? (Utf8.encode address) = (accounts.get? address).map Account.leaf := by
  have hdistinct : (accounts.entries.map fun e => (Utf8.encode e.1, e.2.leaf)).Pairwise
      fun x y => x.1 ≠ y.1 :=
    List.pairwise_map.mpr (accounts.pairwise_ne.imp fun hne => Utf8.encode_injective.ne hne)
  rw [tree, SortedMap.get?_insertMany _ hdistinct,
    SortedMap.lookup_map Utf8.encode_injective Account.leaf, SortedMap.get?_empty]
  cases h : SortedMap.lookup address accounts.entries <;> simp [SortedMap.get?, h]

theorem tree_injective : Function.Injective tree := by
  intro accounts accounts' h
  apply SortedMap.ext_get?
  intro address
  apply Option.map_injective Account.leaf_injective
  rw [← get?_tree, ← get?_tree, h]

/-- The keys of the tree are no longer than the addresses that have an account. -/
theorem length_lt_of_mem_keys_tree {accounts : Accounts} {bound : Nat}
    (short : ∀ a ∈ accounts.keys, (Utf8.encode a).length < bound) :
    ∀ k ∈ accounts.tree.keys, k.length < bound := by
  intro k hk
  obtain ⟨x, hx, rfl⟩ := List.mem_map.mp hk
  rcases SortedMap.mem_entries_insertMany hx with hx | hx
  · obtain ⟨e, he, rfl⟩ := List.mem_map.mp hx
    exact short e.1 (List.mem_map_of_mem he)
  · cases hx

/-- Accounts with one root are equal, up to what digests cannot tell. -/
theorem eqUpToDigests_of_stateRoot_eq {accounts accounts' : Accounts}
    (short : ∀ a ∈ accounts.keys, (Utf8.encode a).length < UInt32.size)
    (short' : ∀ a ∈ accounts'.keys, (Utf8.encode a).length < UInt32.size)
    (h : accounts.stateRoot = accounts'.stateRoot) :
    Merkle.EqUpToDigests (fun m : Accounts => m.tree.entries) accounts accounts' := by
  have htree : Merkle.EqUpToDigests SortedMap.entries accounts.tree accounts'.tree :=
    MerkleTree.eqUpToDigests_of_root_eq (length_lt_of_mem_keys_tree short)
      (length_lt_of_mem_keys_tree short') h
  exact htree.of_injective tree_injective rfl

end Accounts

namespace Merkle

/-- **Roots commit to what they are made of.** Ledgers with one state root hold the same accounts,
maps with one root are equal, and lists of digests with one root are equal, up to what digests
cannot tell: two different byte strings that have been hashed for the two trees may have one digest,
or just one of the trees is empty and the root of the other one is the zero digest by chance. The
length of a key takes four bytes, so keys are shorter than these can count. -/
theorem roots_commit :
    (∀ l l' : Ledger, (∀ a ∈ l.accounts.keys, (Utf8.encode a).length < UInt32.size) →
      (∀ a ∈ l'.accounts.keys, (Utf8.encode a).length < UInt32.size) →
      l.stateRoot = l'.stateRoot →
      EqUpToDigests (fun m : Accounts => m.tree.entries) l.accounts l'.accounts) ∧
    (∀ t t' : MerkleTree, (∀ k ∈ t.keys, k.length < UInt32.size) →
      (∀ k ∈ t'.keys, k.length < UInt32.size) → t.root = t'.root →
      EqUpToDigests SortedMap.entries t t') ∧
    ∀ ds ds' : List Digest, orderedRoot ds = orderedRoot ds' → EqUpToDigests unkeyed ds ds' := by
  refine ⟨?_, ?_, ?_⟩
  · exact fun l l' => Accounts.eqUpToDigests_of_stateRoot_eq
  · exact fun t t' => MerkleTree.eqUpToDigests_of_root_eq
  · exact fun ds ds' => eqUpToDigests_of_orderedRoot_eq

/-- Accounts that are funded in another order, and a map that is filled in another order. -/
theorem roots_commit_otherOrders :
    let l := Ledger.perform.after (.new default)
      [.initAccount "alice" 1000, .initAccount "bob" 5, .initAccount "carol" 7]
    let l' := Ledger.perform.after (.new ⟨true, 1⟩)
      [.initAccount "carol" 1, .initAccount "bob" 5, .sealBlock "v1", .initAccount "alice" 1000,
        .initAccount "carol" 7]
    let t : MerkleTree := ((∅ : MerkleTree).insert [1] [10]).insert [1, 2] []
    let t' : MerkleTree := ((∅ : MerkleTree).insert [1, 2] []).insert [1] [10]
    EqUpToDigests (fun m : Accounts => m.tree.entries) l.accounts l'.accounts ∧
      EqUpToDigests SortedMap.entries t t' := by
  intro l l' t t'
  have hroot : l.stateRoot = l'.stateRoot := by decide +kernel
  have hroot' : t.root = t'.root := by decide +kernel
  exact ⟨roots_commit.1 l l' (by decide +kernel) (by decide +kernel) hroot,
    roots_commit.2.1 t t' (by decide +kernel) (by decide +kernel) hroot'⟩

end Merkle

end HostedLedger
