import HostedLedger.Proofs.Account.Transfer

/-!
# Requirements on transactions

A transaction is rejected for the first of its requirements that is not met, in one fixed order:
those on its fields, the account of the sender, those on what this account can pay, and last the
room that the recipient has. A sender that pays itself has the room, since it has paid before.

## Main definitions

* `Requirement`: a condition, and what is answered where it does not hold
* `Requirement.firstUnmet?`, `Requirement.checkAll`: the first requirement of a list that is not
  met, and the answer that follows from it
* `Accounts.requirements`: what accounts require of a transaction, in order

## Main results

* `Requirement.checkAll_eq_ok_iff`, `Requirement.checkAll_of_firstUnmet`: the answers
* `Overlay.answer_transfer`: a transfer is answered as its requirements say
-/

namespace HostedLedger

/-- A condition on a transaction, and the reason for which the transaction is rejected where the
condition does not hold. -/
structure Requirement where
  holds : Prop
  refusal : TransferError
  [decidable : Decidable holds]

namespace Requirement

attribute [instance] decidable

/-- The first requirement of a list that is not met. -/
def firstUnmet? (rs : List Requirement) : Option Requirement := rs.find? fun r => ¬ r.holds

/-- Rejects for the first requirement that is not met, if there is one. -/
def checkAll (rs : List Requirement) : Except TransferError Unit :=
  match firstUnmet? rs with
  | none => .ok ()
  | some r => .error r.refusal

@[simp] theorem checkAll_nil : checkAll [] = .ok () := rfl

theorem checkAll_cons (r : Requirement) (rs : List Requirement) :
    checkAll (r :: rs) = if r.holds then checkAll rs else .error r.refusal := by
  by_cases h : r.holds
  · simp [checkAll, firstUnmet?, h]
  · simp [checkAll, firstUnmet?, h]

/-- The requirements of a second list count where those of the first are met. -/
theorem checkAll_append (rs ss : List Requirement) :
    checkAll (rs ++ ss) = (checkAll rs).bind fun _ => checkAll ss := by
  induction rs with
  | nil => rfl
  | cons r rs ih =>
    rw [List.cons_append, checkAll_cons, checkAll_cons, ih]
    split <;> rfl

theorem firstUnmet?_eq_none_iff {rs : List Requirement} :
    firstUnmet? rs = none ↔ ∀ r ∈ rs, r.holds := by
  simp [firstUnmet?]

theorem checkAll_eq_ok_iff {rs : List Requirement} :
    checkAll rs = .ok () ↔ ∀ r ∈ rs, r.holds := by
  rw [← firstUnmet?_eq_none_iff, checkAll]
  cases firstUnmet? rs <;> simp

theorem checkAll_of_firstUnmet {rs : List Requirement} {r : Requirement}
    (h : firstUnmet? rs = some r) : checkAll rs = .error r.refusal := by
  rw [checkAll, h]

/-- Nothing but the reasons of the requirements is answered. -/
theorem exists_mem_of_checkAll {rs : List Requirement} {e : TransferError}
    (h : checkAll rs = .error e) : ∃ r ∈ rs, r.refusal = e := by
  rw [checkAll] at h
  split at h
  · cases h
  · next r hr =>
    cases h
    exact ⟨r, List.mem_of_find?_eq_some hr, rfl⟩

end Requirement

open Requirement (checkAll)

/-! ### What is required -/

namespace Transaction

/-- What is required of the fields alone. -/
def fieldRequirements (tx : Transaction) : List Requirement :=
  [⟨tx.sender ≠ "", .emptySender⟩,
   ⟨tx.recipient ≠ "", .emptyRecipient⟩,
   ⟨0 < tx.amount.toNat, .zeroAmount⟩]

/-- What is required of the account that pays. -/
def paymentRequirements (tx : Transaction) (sender : Account) : List Requirement :=
  [⟨tx.nonce = sender.nonce, .nonceMismatch sender.nonce tx.nonce⟩,
   ⟨tx.amount.toNat + tx.gasFee.toNat < UInt64.size, .costOverflow⟩,
   ⟨tx.amount.toNat + tx.gasFee.toNat ≤ sender.balance.toNat,
    .insufficientBalance sender.balance (tx.amount + tx.gasFee)⟩,
   ⟨sender.nonce.toNat + 1 < UInt64.size, .nonceOverflow⟩]

theorem checkFields_eq (tx : Transaction) : tx.checkFields = checkAll tx.fieldRequirements := by
  simp only [fieldRequirements, Requirement.checkAll_cons, Requirement.checkAll_nil,
    Word.toNat_pos_iff, ne_eq, ite_not]
  rfl

/-- Whether an account can pay is what the requirements on it say. -/
theorem map_debit (tx : Transaction) (sender : Account) :
    (tx.debit sender).map (fun _ => ()) = checkAll (tx.paymentRequirements sender) := by
  simp only [paymentRequirements, Requirement.checkAll_cons, Requirement.checkAll_nil]
  unfold debit
  by_cases hnonce : tx.nonce = sender.nonce
  case neg => rw [if_neg hnonce, if_pos hnonce]; rfl
  rw [if_pos hnonce, if_neg (not_not.mpr hnonce), cost?, Word.add?]
  by_cases hcost : tx.amount.toNat + tx.gasFee.toNat < UInt64.size
  case neg => rw [if_neg hcost, if_neg hcost]; rfl
  have hcover : tx.amount.toNat + tx.gasFee.toNat ≤ sender.balance.toNat ↔
      ¬ sender.balance < tx.amount + tx.gasFee := by
    rw [UInt64.not_lt, UInt64.le_iff_toNat_le, UInt64.toNat_add, Nat.mod_eq_of_lt hcost]
  rw [if_pos hcost, if_pos hcost]
  simp only [hcover, ite_not]
  split
  · rfl
  by_cases hnext : sender.nonce.toNat + 1 < UInt64.size
  · rw [Word.add?, if_pos (by exact hnext), if_pos hnext]; rfl
  · rw [Word.add?, if_neg (by exact hnext), if_neg hnext]; rfl

end Transaction

namespace Accounts

/-- What accounts require of a transaction, in the order in which it is looked at. -/
def requirements (m : Accounts) (tx : Transaction) : List Requirement :=
  tx.fieldRequirements ++
    ⟨(m.get? tx.sender).isSome, .unknownSender tx.sender⟩ ::
      (tx.paymentRequirements (m.accountOf tx.sender) ++
        [⟨tx.recipient ≠ tx.sender →
            (m.accountOf tx.recipient).balance.toNat + tx.amount.toNat < UInt64.size,
          .recipientOverflow⟩])

theorem forall_requirements_iff {m : Accounts} {tx : Transaction} :
    (∀ r ∈ m.requirements tx, r.holds) ↔
      (∀ r ∈ tx.fieldRequirements, r.holds) ∧ (m.get? tx.sender).isSome ∧
        (∀ r ∈ tx.paymentRequirements (m.accountOf tx.sender), r.holds) ∧
        (tx.recipient ≠ tx.sender →
          (m.accountOf tx.recipient).balance.toNat + tx.amount.toNat < UInt64.size) := by
  simp only [requirements, List.forall_mem_append, List.forall_mem_cons, List.not_mem_nil,
    false_implies, implies_true, and_true]

/-- The recipient, once the sender has paid, has room for the amount just if it had before, and
always if it is the sender. -/
theorem room_iff (m : Accounts) {tx : Transaction} {sender payer : Account}
    (debit : tx.debit sender = .ok payer) :
    (accountOf (m.insert tx.sender payer) tx.recipient).balance.toNat + tx.amount.toNat <
        UInt64.size ↔
      (tx.recipient ≠ tx.sender →
        (m.accountOf tx.recipient).balance.toNat + tx.amount.toNat < UInt64.size) := by
  rw [accountOf_insert]
  by_cases h : tx.recipient = tx.sender
  · obtain ⟨-, -, hbalance⟩ := Transaction.debit_eq_ok debit
    have hsize : sender.balance.toNat < UInt64.size := sender.balance.toNat_lt
    rw [if_pos h]
    exact iff_of_true (by omega) (absurd h)
  · rw [if_neg h]
    exact (imp_iff_right h).symm

end Accounts

/-- A transfer on an overlay is answered as the accounts that it stands for require. -/
theorem Overlay.answer_transfer (o : Overlay) (tx : Transaction) :
    (o.transfer tx).2 = checkAll (o.commit.requirements tx) := by
  rcases h : o.transfer tx with ⟨o', answer⟩
  rw [Accounts.requirements, Requirement.checkAll_append, ← Transaction.checkFields_eq,
    Requirement.checkAll_cons, Requirement.checkAll_append, ← Transaction.map_debit]
  cases outcome_of_transfer h with
  | malformed fields => rw [fields]; rfl
  | unknown fields absent => simp [fields, absent, Except.bind]
  | unpaid fields present debit =>
    rw [Accounts.accountOf_of_get? present]
    simp [fields, present, debit, Except.bind, Except.map]
  | overflow fields present debit full =>
    have hroom := mt (Accounts.room_iff _ debit).mpr (Nat.not_lt.mpr full)
    rw [Accounts.accountOf_of_get? present]
    simp only [fields, present, debit, Except.bind, Except.map, Requirement.checkAll_cons, hroom]
    rfl
  | accepted fields present debit credited_nonce credited_balance =>
    have hroom := (Accounts.room_iff _ debit).mp (credited_balance ▸ UInt64.toNat_lt _)
    rw [Accounts.accountOf_of_get? present]
    simp only [fields, present, debit, Except.bind, Except.map, Requirement.checkAll_cons,
      if_pos hroom]
    rfl

end HostedLedger
