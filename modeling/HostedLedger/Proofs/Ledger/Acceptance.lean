import HostedLedger.Proofs.Ledger.Payment
import HostedLedger.Proofs.Wire.Written

/-!
# Calls that go through

When a ledger is sure to do what it is asked. Sealing fails only for want of a proposer, of
transactions or of a written form; a payment to oneself needs nothing but the money.

## Main results

* `Ledger.exists_nextBlock_iff`: the pools that make a block
* `Ledger.exists_sealBlock`, `Ledger.sealBlock_of_forbidden`: a block that is sealed, and one that
  is not since it would be empty
* `Ledger.exists_apply_self`: a payment to oneself that is accepted
-/

namespace HostedLedger

theorem Transaction.exists_hash_iff {tx : Transaction} :
    (∃ digest, tx.hash = .ok digest) ↔ Transaction.format.Writes tx := by
  simp only [Transaction.hash, Format.bind_eq_ok_iff]
  constructor
  · rintro ⟨-, w, hw, -⟩
    exact ⟨w, hw⟩
  · rintro ⟨w, hw⟩
    exact ⟨_, w, hw, rfl⟩

theorem Block.exists_preimage_iff {prevHash : Digest} {height : UInt64} {proposer : String}
    {txHashes : List Digest} :
    (∃ w, Block.preimage prevHash height proposer txHashes = .ok w) ↔
      Format.text.Writes proposer ∧ txHashes.length < UInt32.size := by
  change preimageFormat.Writes (prevHash, height, proposer, txHashes) ↔ _
  simp [preimageFormat, Format.writes_pair_iff, Format.writes_digest, Format.writes_word64,
    Format.writes_sequence_iff]

namespace Ledger

variable {l : Ledger}

/-- A pool makes a block if its transactions, their number and the proposer have written forms. -/
theorem exists_nextBlock_iff {proposer : String} :
    (∃ block, l.nextBlock proposer = .ok block) ↔
      (∀ tx ∈ l.pending, Transaction.format.Writes tx) ∧ Format.text.Writes proposer ∧
        l.pending.length < UInt32.size := by
  simp only [nextBlock_eq_ok_iff, ← Transaction.exists_hash_iff]
  rw [← exists_mapM_eq_ok_iff]
  constructor
  · rintro ⟨-, txHashes, w, htx, hw, -⟩
    have hwritten := Block.exists_preimage_iff.mp ⟨w, hw⟩
    rw [length_of_mapM_eq_ok htx] at hwritten
    exact ⟨⟨txHashes, htx⟩, hwritten⟩
  · rintro ⟨⟨txHashes, htx⟩, hwritten⟩
    rw [← length_of_mapM_eq_ok htx] at hwritten
    obtain ⟨w, hw⟩ := Block.exists_preimage_iff.mpr hwritten
    exact ⟨_, txHashes, w, htx, hw, rfl⟩

/-- Sealing goes through where the pool makes a block that is allowed. -/
theorem exists_sealBlock {proposer : String} (proposer_ne : proposer ≠ "")
    (allowed : l.pending = [] → l.policy.allowEmptyBlocks = true)
    (makes : ∃ block, l.nextBlock proposer = .ok block) :
    ∃ block, l.sealBlock proposer =
      ({ l with pending := [], chain := l.chain ++ [block] }, .ok block) := by
  obtain ⟨block, hblock⟩ := makes
  refine ⟨block, ?_⟩
  rw [sealBlock, (Address.check_eq_ok_iff _).mpr proposer_ne, hblock]
  have hallowed : (l.pending.isEmpty && !l.policy.allowEmptyBlocks) = false := by
    simpa using allowed
  simp only [hallowed, Bool.false_eq_true, if_false]

/-- Nothing is sealed without a transaction where empty blocks are not allowed. -/
theorem sealBlock_of_forbidden {proposer : String} (proposer_ne : proposer ≠ "")
    (pending_eq : l.pending = []) (forbidden : l.policy.allowEmptyBlocks = false) :
    l.sealBlock proposer = (l, .error .emptyBlock) := by
  rw [sealBlock, (Address.check_eq_ok_iff _).mpr proposer_ne]
  simp only [pending_eq, forbidden]
  rfl

/-- A payment to oneself is accepted if its cost is covered. -/
theorem exists_apply_self {tx : Transaction} {account : Account} (sender_ne : tx.sender ≠ "")
    (recipient_eq : tx.recipient = tx.sender) (amount_ne : tx.amount ≠ 0)
    (account_eq : l.account? tx.sender = some account) (nonce_eq : tx.nonce = account.nonce)
    (nonce_lt : account.nonce.toNat + 1 < UInt64.size)
    (covered : tx.amount.toNat + tx.gasFee.toNat ≤ account.balance.toNat) :
    ∃ accounts, l.apply tx = ({ l with accounts, pending := l.pending ++ [tx] }, .ok ()) := by
  have haccount : l.accounts.accountOf tx.sender = account := Accounts.accountOf_of_get? account_eq
  have hsize : account.balance.toNat < UInt64.size := account.balance.toNat_lt
  have hrequired : ∀ r ∈ l.accounts.requirements tx, r.holds := by
    rw [Accounts.forall_requirements_iff, haccount, recipient_eq]
    refine ⟨?_, Option.isSome_of_eq_some account_eq, ?_, absurd rfl⟩
    · have hamount := Word.toNat_pos_iff.mpr amount_ne
      simp [Transaction.fieldRequirements, sender_ne, recipient_eq, hamount]
    · have hcost := Nat.lt_of_le_of_lt covered hsize
      simp [Transaction.paymentRequirements, nonce_eq, nonce_lt, covered, hcost]
  obtain ⟨l', h⟩ := exists_apply_iff.mpr hrequired
  obtain ⟨accounts, -, rfl⟩ := eq_of_apply_ok h
  exact ⟨accounts, h⟩

end Ledger

end HostedLedger
