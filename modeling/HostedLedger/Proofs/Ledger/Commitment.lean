import HostedLedger.Application.Lawful
import HostedLedger.Proofs.Digest.Collision
import HostedLedger.Proofs.Ledger.Chain
import HostedLedger.Proofs.Wire.Written
import Mathlib.Data.List.Induction
import Mathlib.Data.List.Forall2

/-!
# What the latest hash commits to

The hash of a block is made of the hash before it, of its height and proposer, and of the hashes of
its transactions. So ledgers with one latest hash have gone through the same blocks, unless two
different byte strings that have been hashed for them have one digest. The root over the accounts
is not among what is hashed: ledgers with one latest hash may hold different accounts.

## Main definitions

* `Block.Hashes`: a byte string is hashed for a block
* `Block.hashed`: the byte strings that are hashed for the blocks of a chain
* `Block.Agrees`: two blocks agree on what their hashes are made of

## Main results

* `Block.transactions_eq_of_hashes_eq`: the hashes of transactions tell the transactions
* `Block.LinkedAt.agrees`: linked blocks with one hash agree
* `Block.Chained.agrees`: linked chains of one length that end in one hash agree block by block
* `Ledger.latest_hash_commits`: ledgers with one latest hash have gone through the same blocks
-/

namespace HostedLedger

open Digest

theorem Transaction.hash_eq_ok_iff {tx : Transaction} {d : Digest} :
    tx.hash = .ok d ↔ ∃ bs, tx.encode = .ok bs ∧ d = sha256 bs := by
  rw [Transaction.hash, Format.bind_eq_ok_iff]
  constructor
  · rintro ⟨bs, hbs, h⟩
    cases h
    exact ⟨bs, hbs, rfl⟩
  · rintro ⟨bs, hbs, rfl⟩
    exact ⟨bs, hbs, rfl⟩

namespace Block

/-- A byte string is hashed for a block: the written form of one of its transactions, or what the
hash of the block itself is made of. -/
inductive Hashes (b : Block) : Bytes → Prop
  | transaction {tx : Transaction} {bs : Bytes} (mem : tx ∈ b.transactions)
    (written : tx.encode = .ok bs) : Hashes b bs
  | preimage {txHashes : List Digest} {bs : Bytes}
    (txHashes_eq : b.transactions.mapM Transaction.hash = .ok txHashes)
    (written : Block.preimage b.prevHash b.height b.proposer txHashes = .ok bs) : Hashes b bs

/-- The byte strings that are hashed for the blocks of a chain. -/
def hashed (chain : List Block) : Set Bytes := {bs | ∃ b ∈ chain, b.Hashes bs}

theorem mem_hashed {chain : List Block} {b : Block} {bs : Bytes} (hb : b ∈ chain)
    (h : b.Hashes bs) : bs ∈ hashed chain := ⟨b, hb, h⟩

theorem hashed_mono {chain chain' : List Block} (h : chain ⊆ chain') :
    hashed chain ⊆ hashed chain' := by
  rintro bs ⟨b, hb, hbs⟩
  exact ⟨b, h hb, hbs⟩

/-- Two blocks agree on everything but the root over the accounts. -/
structure Agrees (b c : Block) : Prop where
  height_eq : b.height = c.height
  prevHash_eq : b.prevHash = c.prevHash
  hash_eq : b.hash = c.hash
  proposer_eq : b.proposer = c.proposer
  transactions_eq : b.transactions = c.transactions
  txRoot_eq : b.txRoot = c.txRoot

section Agreement

-- `all` is everything that is hashed for two chains.
variable {all : Set Bytes} (distinct : ¬ Collides sha256 all)
include distinct

/-- Without a collision the hashes of transactions tell the transactions. -/
theorem transactions_eq_of_hashes_eq {txs txs' : List Transaction}
    (hashes : ∀ tx ∈ txs, ∀ bs, tx.encode = .ok bs → bs ∈ all)
    (hashes' : ∀ tx ∈ txs', ∀ bs, tx.encode = .ok bs → bs ∈ all) {ds : List Digest}
    (h : txs.mapM Transaction.hash = .ok ds) (h' : txs'.mapM Transaction.hash = .ok ds) :
    txs = txs' := by
  induction txs generalizing txs' ds with
  | nil =>
    cases h
    have hlength := length_of_mapM_eq_ok h'
    exact (List.eq_nil_of_length_eq_zero hlength.symm).symm
  | cons tx txs ih =>
    simp only [List.mapM_cons, Format.bind_eq_ok_iff] at h
    obtain ⟨d, hd, ds, hds, h⟩ := h
    cases h
    cases txs' with
    | nil => cases h'
    | cons tx' txs' =>
      simp only [List.mapM_cons, Format.bind_eq_ok_iff] at h'
      obtain ⟨d', hd', ds', hds', h'⟩ := h'
      cases h'
      obtain ⟨hmem, hmems⟩ := List.forall_mem_cons.mp hashes
      obtain ⟨hmem', hmems'⟩ := List.forall_mem_cons.mp hashes'
      obtain ⟨bs, hbs, rfl⟩ := Transaction.hash_eq_ok_iff.mp hd
      obtain ⟨bs', hbs', hsame⟩ := Transaction.hash_eq_ok_iff.mp hd'
      obtain rfl := eq_of_not_collides distinct (hmem bs hbs) (hmem' bs' hbs') hsame
      obtain rfl := Transaction.lawful_format.write_inj hbs hbs'
      rw [ih hmems hmems' hds hds']

variable {allowEmpty allowEmpty' : Bool} {chain chain' : List Block}

/-- Without a collision, linked blocks with one hash agree. -/
theorem LinkedAt.agrees {i j : Nat} {b c : Block} (hb : b.LinkedAt allowEmpty chain i)
    (hc : c.LinkedAt allowEmpty' chain' j) (hashes : ∀ bs, b.Hashes bs → bs ∈ all)
    (hashes' : ∀ bs, c.Hashes bs → bs ∈ all) (h : b.hash = c.hash) : b.Agrees c := by
  obtain ⟨ds, preimage, hds, hpre, hhash, hroot⟩ := hb.hash_eq
  obtain ⟨ds', preimage', hds', hpre', hhash', hroot'⟩ := hc.hash_eq
  have hsame : preimage = preimage' := by
    apply eq_of_not_collides distinct (hashes _ (.preimage hds hpre))
      (hashes' _ (.preimage hds' hpre'))
    rw [← hhash, h, hhash']
  subst hsame
  have hfields := lawful_preimageFormat.write_inj hpre hpre'
  simp only [Prod.mk.injEq] at hfields
  obtain ⟨hprev, hheight, hproposer, rfl⟩ := hfields
  have htransactions : b.transactions = c.transactions :=
    transactions_eq_of_hashes_eq distinct
      (fun tx htx bs hbs => hashes bs (.transaction htx hbs))
      (fun tx htx bs hbs => hashes' bs (.transaction htx hbs)) hds hds'
  exact {
    height_eq := hheight
    prevHash_eq := hprev
    hash_eq := h
    proposer_eq := hproposer
    transactions_eq := htransactions
    txRoot_eq := hroot.trans hroot'.symm }

end Agreement

/-! ### Chains from their ends -/

theorem hashBefore_snoc (chain : List Block) (b : Block) :
    hashBefore (chain ++ [b]) (chain ++ [b]).length = b.hash := by
  rw [List.length_append, List.length_singleton, hashBefore, List.getElem?_concat_length]
  rfl

/-- A linked chain is a linked chain and one more block, which is linked at its end. -/
theorem Chained.of_snoc {allowEmpty : Bool} {chain : List Block} {b : Block}
    (h : Chained allowEmpty (chain ++ [b])) :
    Chained allowEmpty chain ∧ b.LinkedAt allowEmpty (chain ++ [b]) chain.length := by
  constructor
  · intro i c hc
    obtain ⟨hi, -⟩ := List.getElem?_eq_some_iff.mp hc
    have hlinked := h i c (by rwa [List.getElem?_append_left hi])
    exact { hlinked with
      prevHash_eq := by rw [hlinked.prevHash_eq, hashBefore_append (Nat.le_of_lt hi)] }
  · exact h chain.length b List.getElem?_concat_length

/-- Without a collision, linked chains of one length that end in one hash agree block by block. -/
theorem Chained.agrees {all : Set Bytes} (distinct : ¬ Collides sha256 all)
    {allowEmpty allowEmpty' : Bool} {chain chain' : List Block}
    (h : Chained allowEmpty chain) (h' : Chained allowEmpty' chain')
    (subset : hashed chain ⊆ all) (subset' : hashed chain' ⊆ all)
    (length_eq : chain.length = chain'.length)
    (same : hashBefore chain chain.length = hashBefore chain' chain'.length) :
    List.Forall₂ Agrees chain chain' := by
  induction chain using List.reverseRecOn generalizing chain' with
  | nil =>
    obtain rfl := List.eq_nil_of_length_eq_zero length_eq.symm
    exact .nil
  | append_singleton chain b ih =>
    rcases List.eq_nil_or_concat chain' with rfl | ⟨chain', c, rfl⟩
    · simp at length_eq
    rw [List.concat_eq_append] at h' subset' length_eq same ⊢
    rw [hashBefore_snoc, hashBefore_snoc] at same
    have hlength : chain.length = chain'.length := by simpa using length_eq
    obtain ⟨hchain, hb⟩ := h.of_snoc
    obtain ⟨hchain', hc⟩ := h'.of_snoc
    have hagrees : b.Agrees c := hb.agrees distinct hc
      (fun bs hbs => subset (mem_hashed (by simp) hbs))
      (fun bs hbs => subset' (mem_hashed (by simp) hbs)) same
    have hbefore : hashBefore chain chain.length = hashBefore chain' chain'.length := by
      have hprev := hagrees.prevHash_eq
      rwa [hb.prevHash_eq, hc.prevHash_eq, hashBefore_append (Nat.le_refl _),
        hashBefore_append (Nat.le_refl _)] at hprev
    have hbelow := ih hchain hchain'
      (fun bs hbs => subset (hashed_mono (List.subset_append_left ..) hbs))
      (fun bs hbs => subset' (hashed_mono (List.subset_append_left ..) hbs)) hlength hbefore
    exact List.rel_append hbelow (.cons hagrees .nil)

end Block

namespace Ledger

/-- Without a collision, chains that are not empty and end in one hash have one length, since the
last blocks tell their heights. -/
theorem length_eq_of_latestHash_eq {all : Set Bytes} (distinct : ¬ Collides sha256 all)
    {allowEmpty allowEmpty' : Bool} {l l' : Ledger} (h : Block.Chained allowEmpty l.chain)
    (h' : Block.Chained allowEmpty' l'.chain)
    (bounded : l.chain.length < UInt64.size) (bounded' : l'.chain.length < UInt64.size)
    (subset : Block.hashed l.chain ⊆ all) (subset' : Block.hashed l'.chain ⊆ all)
    (nonempty : l.chain ≠ []) (nonempty' : l'.chain ≠ [])
    (same : l.latestHash = l'.latestHash) : l.chain.length = l'.chain.length := by
  rw [latestHash_eq_hashBefore, latestHash_eq_hashBefore] at same
  obtain ⟨chain, b, hl⟩ := (List.eq_nil_or_concat l.chain).resolve_left nonempty
  obtain ⟨chain', c, hl'⟩ := (List.eq_nil_or_concat l'.chain).resolve_left nonempty'
  rw [List.concat_eq_append] at hl hl'
  rw [hl] at h bounded subset same ⊢
  rw [hl'] at h' bounded' subset' same ⊢
  rw [Block.hashBefore_snoc, Block.hashBefore_snoc] at same
  obtain ⟨-, hb⟩ := h.of_snoc
  obtain ⟨-, hc⟩ := h'.of_snoc
  have hagrees : b.Agrees c := hb.agrees distinct hc
    (fun bs hbs => subset (Block.mem_hashed (by simp) hbs))
    (fun bs hbs => subset' (Block.mem_hashed (by simp) hbs)) same
  have hheight := hagrees.height_eq
  rw [hb.height_eq, hc.height_eq] at hheight
  have hnat := congrArg UInt64.toNat hheight
  simp only [List.length_append, List.length_singleton] at bounded bounded' ⊢
  rwa [UInt64.toNat_ofNat_of_lt' bounded, UInt64.toNat_ofNat_of_lt' bounded'] at hnat

/-- **The latest hash commits to the history.** Two reachable ledgers that have blocks and one
latest hash have the same number of blocks and agree on them one by one, or two different byte
strings that have been hashed for their blocks have one digest. Heights are words, so chains are
shorter than words can count. -/
theorem latest_hash_commits (policy policy' : Policy) (calls calls' : List Call)
    (bounded : (perform.after (new policy) calls).chain.length < UInt64.size)
    (bounded' : (perform.after (new policy') calls').chain.length < UInt64.size)
    (nonempty : (perform.after (new policy) calls).chain ≠ [])
    (nonempty' : (perform.after (new policy') calls').chain ≠ [])
    (same : (perform.after (new policy) calls).latestHash =
      (perform.after (new policy') calls').latestHash) :
    let l := perform.after (new policy) calls
    let l' := perform.after (new policy') calls'
    List.Forall₂ Block.Agrees l.chain l'.chain ∨
      Collides sha256 (Block.hashed l.chain ∪ Block.hashed l'.chain) := by
  intro l l'
  rcases Classical.em (Collides sha256 (Block.hashed l.chain ∪ Block.hashed l'.chain)) with
    hcollides | distinct
  · exact .inr hcollides
  left
  have hchained := chained_after policy calls
  have hchained' := chained_after policy' calls'
  have subset : Block.hashed l.chain ⊆ Block.hashed l.chain ∪ Block.hashed l'.chain :=
    fun bs hbs => .inl hbs
  have subset' : Block.hashed l'.chain ⊆ Block.hashed l.chain ∪ Block.hashed l'.chain :=
    fun bs hbs => .inr hbs
  have hlength : l.chain.length = l'.chain.length :=
    length_eq_of_latestHash_eq distinct hchained hchained' bounded bounded' subset subset'
      nonempty nonempty' same
  refine hchained.agrees distinct hchained' subset subset' hlength ?_
  rwa [← latestHash_eq_hashBefore, ← latestHash_eq_hashBefore]

/-- Two runs with other balances, one of them with a call that is refused, seal the same block. -/
theorem latest_hash_commits_otherBalances :
    let l := perform.after (new default)
      [.initAccount "alice" 3000, .apply ⟨"alice", "bob", 100, 1, 0, 0, []⟩, .sealBlock "v1"]
    let l' := perform.after (new default)
      [.initAccount "alice" 2000, .sealBlock "v0", .initAccount "carol" 1,
        .apply ⟨"alice", "bob", 100, 1, 0, 0, []⟩, .sealBlock "v1"]
    l.latestHash = l'.latestHash ∧ l.balance "alice" ≠ l'.balance "alice" ∧
      (List.Forall₂ Block.Agrees l.chain l'.chain ∨
        Collides sha256 (Block.hashed l.chain ∪ Block.hashed l'.chain)) := by
  intro l l'
  have hlength : l.chain.length = 1 := by decide +kernel
  have hlength' : l'.chain.length = 1 := by decide +kernel
  have same : l.latestHash = l'.latestHash := by decide +kernel
  have bounded : l.chain.length < UInt64.size := by
    rw [hlength]
    decide
  have bounded' : l'.chain.length < UInt64.size := by
    rw [hlength']
    decide
  have nonempty : l.chain ≠ [] := List.ne_nil_of_length_pos (by rw [hlength]; decide)
  have nonempty' : l'.chain ≠ [] := List.ne_nil_of_length_pos (by rw [hlength']; decide)
  refine ⟨same, by decide +kernel, ?_⟩
  exact latest_hash_commits default default _ _ bounded bounded' nonempty nonempty' same

end Ledger

end HostedLedger
