import HostedLedger.Proofs.Ledger.Call
import Mathlib.Data.List.Basic

/-!
# Integrity of the chain

Every block of a chain is linked to the block before it and to its own transactions. A run only
ever adds blocks at the end, one for each sealing that goes through.

## Main definitions

* `Block.hashBefore`: the hash of the block before a place
* `Block.LinkedAt`: what ties a block to its place, to the block before it and to its transactions
* `Block.Chained`: every block of a chain is linked at its place

## Main results

* `Ledger.chain_after`: the chain after a run is the chain before it and the blocks sealed by it
* `Ledger.chained_after`: every run keeps the chain linked
* `Ledger.chain_integrity`: the chain of every reachable ledger, and how it is looked up
-/

namespace HostedLedger

namespace Block

/-- The hash that a block at a place follows; places are counted from zero. -/
def hashBefore (chain : List Block) : Nat → Digest
  | 0 => Digest.zero
  | i + 1 => (chain[i]?.map (·.hash)).getD Digest.zero

/-- A block is tied to its place in a chain, to the block before it and to its transactions. -/
structure LinkedAt (allowEmpty : Bool) (chain : List Block) (i : Nat) (b : Block) : Prop where
  height_eq : b.height = UInt64.ofNat (i + 1)
  prevHash_eq : b.prevHash = hashBefore chain i
  /-- The hash and the transaction root are made of the digests of the block's transactions. -/
  hash_eq : ∃ txHashes preimage,
    b.transactions.mapM Transaction.hash = .ok txHashes ∧
      Block.preimage b.prevHash b.height b.proposer txHashes = .ok preimage ∧
      b.hash = sha256 preimage ∧ b.txRoot = Merkle.orderedRoot txHashes
  proposer_ne : b.proposer ≠ ""
  allowed : b.transactions = [] → allowEmpty = true

/-- Every block of a chain is linked at its place. -/
def Chained (allowEmpty : Bool) (chain : List Block) : Prop :=
  ∀ i (b : Block), chain[i]? = some b → b.LinkedAt allowEmpty chain i

theorem hashBefore_append {chain : List Block} {i : Nat} (hi : i ≤ chain.length)
    (bs : List Block) : hashBefore (chain ++ bs) i = hashBefore chain i := by
  cases i with
  | zero => rfl
  | succ i => rw [hashBefore, hashBefore, List.getElem?_append_left (by omega)]

theorem LinkedAt.append {allowEmpty : Bool} {chain : List Block} {i : Nat} {b : Block}
    (h : b.LinkedAt allowEmpty chain i) (hi : i ≤ chain.length) (bs : List Block) :
    b.LinkedAt allowEmpty (chain ++ bs) i :=
  { h with prevHash_eq := by rw [h.prevHash_eq, hashBefore_append hi] }

theorem chained_nil (allowEmpty : Bool) : Chained allowEmpty [] := by
  intro i b h
  simp at h

theorem Chained.snoc {allowEmpty : Bool} {chain : List Block} {b : Block}
    (h : Chained allowEmpty chain) (hb : b.LinkedAt allowEmpty chain chain.length) :
    Chained allowEmpty (chain ++ [b]) := by
  intro i c hc
  rcases Nat.lt_or_ge i chain.length with hi | hi
  · rw [List.getElem?_append_left hi] at hc
    exact (h i c hc).append (Nat.le_of_lt hi) [b]
  · rw [List.getElem?_append_right hi, List.getElem?_singleton] at hc
    split at hc
    · next h0 =>
      cases hc
      obtain rfl : i = chain.length := by omega
      exact hb.append hi [b]
    · cases hc

end Block

namespace Ledger

theorem latestHash_eq_hashBefore (l : Ledger) :
    l.latestHash = Block.hashBefore l.chain l.chain.length := by
  rw [latestHash, List.getLast?_eq_getElem?]
  cases h : l.chain.length with
  | zero => rw [List.length_eq_zero_iff.mp h]; rfl
  | succ n => rfl

theorem height_add_one (l : Ledger) : l.height + 1 = UInt64.ofNat (l.chain.length + 1) := by
  rw [height, UInt64.ofNat_add]
  rfl

/-- The block that is sealed next is linked at the end of the chain. -/
theorem linkedAt_of_nextBlock {l : Ledger} {proposer : String} {b : Block}
    (proposer_ne : proposer ≠ "")
    (allowed : l.pending = [] → l.policy.allowEmptyBlocks = true)
    (h : l.nextBlock proposer = .ok b) :
    b.LinkedAt l.policy.allowEmptyBlocks l.chain l.chain.length := by
  obtain ⟨txHashes, preimage, htx, hpre, rfl⟩ := nextBlock_eq_ok_iff.mp h
  exact {
    height_eq := l.height_add_one
    prevHash_eq := l.latestHash_eq_hashBefore
    hash_eq := ⟨txHashes, preimage, htx, hpre, rfl, rfl⟩
    proposer_ne
    allowed }

theorem chained_of_effect {l l' : Ledger} {call : Call} {answer : Answer}
    (h : Effect l call answer l') (hl : Block.Chained l.policy.allowEmptyBlocks l.chain) :
    Block.Chained l'.policy.allowEmptyBlocks l'.chain := by
  cases h with
  | refused => exact hl
  | initAccount => exact hl
  | apply => exact hl
  | sealBlock proposer_ne allowed block_eq =>
    exact hl.snoc (linkedAt_of_nextBlock proposer_ne allowed block_eq)

/-- Every run from the empty ledger leads to a linked chain. -/
theorem chained_after (policy : Policy) (calls : List Call) :
    Block.Chained policy.allowEmptyBlocks (perform.after (new policy) calls).chain := by
  have h := obeys_effect.after_induction
    (P := fun l => Block.Chained l.policy.allowEmptyBlocks l.chain) chained_of_effect
    (Block.chained_nil (new policy).policy.allowEmptyBlocks) calls
  rwa [policy_after] at h

theorem chain_of_effect {l l' : Ledger} {call : Call} {answer : Answer}
    (h : Effect l call answer l') : l'.chain = l.chain ++ sealed ⟨l, call, answer⟩ := by
  cases h with
  | @refused call e =>
    cases call <;> exact (List.append_nil _).symm
  | initAccount => exact (List.append_nil _).symm
  | apply => exact (List.append_nil _).symm
  | sealBlock => rfl

/-- A run adds the blocks that it has sealed, in their order. -/
theorem chain_after (l : Ledger) (calls : List Call) :
    (perform.after l calls).chain = l.chain ++ (perform.steps l calls).flatMap sealed :=
  obeys_effect.after_eq_append (f := chain) chain_of_effect l calls

/-- A call adds nothing to the chain but the block that it seals. -/
theorem obeys_chain : perform.Obeys fun l call answer l' =>
    match call, answer with
    | .sealBlock _, .ok block => ∃ b, block = some b ∧ l'.chain = l.chain ++ [b]
    | _, _ => l'.chain = l.chain :=
  obeys_effect.mono fun {l call answer l'} h => by
    cases h with
    | refused => cases call <;> rfl
    | initAccount => rfl
    | apply => rfl
    | sealBlock => exact ⟨_, rfl, rfl⟩

theorem toNat_height {l : Ledger} (h : l.chain.length < UInt64.size) :
    l.height.toNat = l.chain.length := UInt64.toNat_ofNat_of_lt' h

/-- Heights from one up to that of the ledger have a block, which stands one place before them. -/
theorem block?_of_le_height {l : Ledger} (h : l.chain.length < UInt64.size) {height : UInt64}
    (one_le : 1 ≤ height) (le_height : height ≤ l.height) :
    ∃ b, l.block? height = some b ∧ l.chain[height.toNat - 1]? = some b := by
  have hpos : 1 ≤ height.toNat := UInt64.le_iff_toNat_le.mp one_le
  have hle := UInt64.le_iff_toNat_le.mp le_height
  rw [toNat_height h] at hle
  have hne : height ≠ 0 := by
    rintro rfl
    simp at hpos
  refine ⟨l.chain[height.toNat - 1], ?_, List.getElem?_eq_getElem (by omega)⟩
  rw [block?, if_neg hne]
  exact List.getElem?_eq_getElem (by omega)

theorem block?_of_height_lt {l : Ledger} (h : l.chain.length < UInt64.size) {height : UInt64}
    (lt : l.height < height) : l.block? height = none := by
  have hlt := UInt64.lt_iff_toNat_lt.mp lt
  rw [toNat_height h] at hlt
  rw [block?]
  split
  · rfl
  · exact List.getElem?_eq_none (by omega)

/-- **Integrity of the chain.** Every block of a reachable ledger has the height of its place and is
linked to the block before it and to its own transactions; blocks are found by their heights; and a
call adds nothing to the chain but the block that it seals. -/
theorem chain_integrity (policy : Policy) (calls : List Call)
    (bounded : (perform.after (new policy) calls).chain.length < UInt64.size) :
    let l := perform.after (new policy) calls
    (∀ i b, l.chain[i]? = some b →
      b.height.toNat = i + 1 ∧ b.LinkedAt policy.allowEmptyBlocks l.chain i) ∧
    l.height.toNat = l.chain.length ∧
    (∀ height, 1 ≤ height → height ≤ l.height →
      ∃ b, l.block? height = some b ∧ l.chain[height.toNat - 1]? = some b) ∧
    l.block? 0 = none ∧
    (∀ height, l.height < height → l.block? height = none) ∧
    (∀ b, l.chain.getLast? = some b → l.latestHash = b.hash) ∧
    (∀ call, match call, (l.perform call).2 with
      | .sealBlock _, .ok block => ∃ b, block = some b ∧ (l.perform call).1.chain = l.chain ++ [b]
      | _, _ => (l.perform call).1.chain = l.chain) ∧
    ∀ more, l.chain <+: (perform.after l more).chain := by
  intro l
  refine ⟨?_, toNat_height bounded, fun _ => block?_of_le_height bounded, rfl,
    fun _ => block?_of_height_lt bounded, ?_, ?_, ?_⟩
  · intro i b hb
    have hlinked := chained_after policy calls i b hb
    refine ⟨?_, hlinked⟩
    obtain ⟨hi, -⟩ := List.getElem?_eq_some_iff.mp hb
    rw [hlinked.height_eq]
    exact UInt64.toNat_ofNat_of_lt' (Nat.lt_of_le_of_lt hi bounded)
  · intro b hb
    rw [latestHash, hb]
    rfl
  · intro call
    exact obeys_chain l call
  · intro more
    rw [chain_after l more]
    exact List.prefix_append _ _

/-- The second of two blocks that are sealed among refused calls follows the first one. -/
theorem chain_integrity_mixedCalls :
    let l := perform.after (new default) mixedCalls
    l.chain.length < UInt64.size ∧
      ∃ b c, l.chain = [b, c] ∧ c.height.toNat = 2 ∧ c.prevHash = b.hash := by
  intro l
  have hlength : l.chain.length = 2 := by decide +kernel
  have bounded : l.chain.length < UInt64.size := by
    rw [hlength]
    decide
  refine ⟨bounded, ?_⟩
  obtain ⟨b, c, hl⟩ := List.length_eq_two.mp hlength
  obtain ⟨hheight, hlinked⟩ := (chain_integrity default mixedCalls bounded).1 1 c (by
    show l.chain[1]? = some c
    rw [hl]
    rfl)
  refine ⟨b, c, hl, hheight, ?_⟩
  rw [hlinked.prevHash_eq]
  show Block.hashBefore l.chain 1 = b.hash
  rw [hl]
  rfl

end Ledger

end HostedLedger
