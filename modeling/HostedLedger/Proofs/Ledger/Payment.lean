import HostedLedger.Error.Report
import HostedLedger.Proofs.Account.Requirement
import HostedLedger.Proofs.Ledger.Conservation
import HostedLedger.Proofs.Ledger.History

/-!
# Payments on a ledger

A ledger accepts a transaction just if its accounts let every requirement on it hold, and otherwise
rejects it for the first one that does not. An accepted transaction moves the amount, burns the fee,
counts for its sender and waits in the pool; nothing else of the ledger changes.

## Main definitions

* `Ledger.Moves`: the effect of an accepted transaction, balance by balance

## Main results

* `Ledger.answer_apply`: the answer to a transaction, from the requirements on it
* `Ledger.moves_of_apply`: the effect of the call
* `Ledger.apply_as_required`: which transactions are accepted, what they do, and how others are
  rejected
-/

namespace HostedLedger

namespace Ledger

/-- What an accepted transaction does to a ledger. -/
structure Moves (l : Ledger) (tx : Transaction) (l' : Ledger) : Prop where
  sender_account : (l.account? tx.sender).isSome ∧ (l'.account? tx.sender).isSome
  recipient_account : (l'.account? tx.recipient).isSome
  sender_nonce : (l'.nonce tx.sender).toNat = (l.nonce tx.sender).toNat + 1
  sender_balance : tx.recipient ≠ tx.sender →
    (l'.balance tx.sender).toNat + (tx.amount.toNat + tx.gasFee.toNat) =
      (l.balance tx.sender).toNat
  recipient_nonce : tx.recipient ≠ tx.sender → l'.nonce tx.recipient = l.nonce tx.recipient
  recipient_balance : tx.recipient ≠ tx.sender →
    (l'.balance tx.recipient).toNat = (l.balance tx.recipient).toNat + tx.amount.toNat
  /-- A sender that pays itself loses the fee. -/
  self_balance : tx.recipient = tx.sender →
    (l'.balance tx.sender).toNat + tx.gasFee.toNat = (l.balance tx.sender).toNat
  account_of_ne : ∀ address, address ≠ tx.sender → address ≠ tx.recipient →
    l'.account? address = l.account? address
  policy_eq : l'.policy = l.policy
  chain_eq : l'.chain = l.chain
  pending_eq : l'.pending = l.pending ++ [tx]

variable {l l' : Ledger} {tx : Transaction}

theorem moves_of_transfers {accounts : Accounts} (h : l.accounts.Transfers tx accounts) :
    l.Moves tx { l with accounts, pending := l.pending ++ [tx] } := by
  have hbalance := h.balance_accountOf
  have hnonce := h.nonce_accountOf
  constructor
  case sender_account =>
    exact ⟨h.isSome_sender, (h.get?_isSome_iff _).mpr (.inl h.isSome_sender)⟩
  case recipient_account => exact (h.get?_isSome_iff _).mpr (.inr rfl)
  case sender_nonce =>
    rw [nonce_eq_accountOf, nonce_eq_accountOf, hnonce, if_pos rfl]
  case sender_balance =>
    intro hne
    rw [balance_eq_accountOf, balance_eq_accountOf]
    simpa [hne] using hbalance tx.sender
  case recipient_nonce =>
    intro hne
    rw [nonce_eq_accountOf, nonce_eq_accountOf, ← UInt64.toNat_inj]
    simpa [hne.symm] using hnonce tx.recipient
  case recipient_balance =>
    intro hne
    rw [balance_eq_accountOf, balance_eq_accountOf]
    simpa [hne.symm] using hbalance tx.recipient
  case self_balance =>
    intro heq
    have hself := hbalance tx.sender
    rw [if_pos rfl, if_pos heq] at hself
    rw [balance_eq_accountOf, balance_eq_accountOf]
    dsimp only
    omega
  case account_of_ne => exact fun address hsender hrecipient => h.get?_of_ne hsender hrecipient
  all_goals rfl

theorem moves_of_apply (h : l.apply tx = (l', .ok ())) : l.Moves tx l' := by
  obtain ⟨accounts, htransfers, rfl⟩ := eq_of_apply_ok h
  exact moves_of_transfers htransfers

/-- A ledger answers a transaction as its accounts require. -/
theorem answer_apply (l : Ledger) (tx : Transaction) :
    (l.apply tx).2 = (Requirement.checkAll (l.accounts.requirements tx)).mapError .transfer := by
  have hanswer := (Overlay.ofAccounts l.accounts).answer_transfer tx
  rw [Overlay.commit_ofAccounts] at hanswer
  rw [← hanswer, apply]
  split
  · next h => rw [h]; rfl
  · next h => rw [h]; rfl

theorem exists_apply_iff :
    (∃ l', l.apply tx = (l', .ok ())) ↔ ∀ r ∈ l.accounts.requirements tx, r.holds := by
  have hanswer := l.answer_apply tx
  rw [← Requirement.checkAll_eq_ok_iff]
  cases hcheck : Requirement.checkAll (l.accounts.requirements tx) with
  | ok =>
    rw [hcheck] at hanswer
    exact iff_of_true ⟨(l.apply tx).1, Prod.ext rfl hanswer⟩ rfl
  | error e =>
    rw [hcheck] at hanswer
    refine iff_of_false ?_ (by simp)
    rintro ⟨l', h⟩
    rw [h] at hanswer
    cases hanswer

/-- **A ledger accepts a transaction just if every requirement on it holds.** It then moves the
amount from the sender to the recipient, burns the fee and puts the transaction at the end of the
pool. A transaction that does not meet a requirement is rejected for the first one that it does not
meet, and the ledger stays as it is. -/
theorem apply_as_required (l : Ledger) (tx : Transaction) :
    ((∃ l', l.apply tx = (l', .ok ())) ↔ ∀ r ∈ l.accounts.requirements tx, r.holds) ∧
      (∀ l', l.apply tx = (l', .ok ()) → l.Moves tx l') ∧
      ∀ r, Requirement.firstUnmet? (l.accounts.requirements tx) = some r →
        l.apply tx = (l, .error (.transfer r.refusal)) ∧
          (Error.transfer r.refusal).report = ⟨.transaction, r.refusal.detail⟩ := by
  refine ⟨exists_apply_iff, fun l' h => moves_of_apply h, fun r h => ⟨?_, rfl⟩⟩
  have hanswer := l.answer_apply tx
  rw [Requirement.checkAll_of_firstUnmet h] at hanswer
  have hrefused : l.apply tx = ((l.apply tx).1, .error (.transfer r.refusal)) :=
    Prod.ext rfl hanswer
  rw [hrefused, eq_of_apply_error hrefused]

/-- A ledger on which an account holds all that a word can say. -/
def whale : Ledger :=
  (new default).seed [⟨"alice", 1000⟩, ⟨"whale", 0xFFFFFFFFFFFFFFFF⟩] |>.1

theorem apply_as_required_whale :
    (∃ l', whale.apply ⟨"whale", "whale", 0xFFFFFFFFFFFFFFFE, 1, 0, 0, []⟩ = (l', .ok ()) ∧
        whale.Moves ⟨"whale", "whale", 0xFFFFFFFFFFFFFFFE, 1, 0, 0, []⟩ l') ∧
      whale.apply ⟨"alice", "whale", 1, 0, 0, 0, []⟩ =
        (whale, .error (.transfer .recipientOverflow)) := by
  obtain ⟨haccepts, hmoves, -⟩ :=
    apply_as_required whale ⟨"whale", "whale", 0xFFFFFFFFFFFFFFFE, 1, 0, 0, []⟩
  obtain ⟨-, -, hrejects⟩ := apply_as_required whale ⟨"alice", "whale", 1, 0, 0, 0, []⟩
  obtain ⟨l', hself⟩ := haccepts.mpr (by decide +kernel)
  exact ⟨⟨l', hself, hmoves l' hself⟩, (hrejects ⟨_, _⟩ rfl).1⟩

end Ledger

end HostedLedger
