import HostedLedger.SortedMap.Lemmas
import HostedLedger.Transfer

/-!
# Transfers on accounts

An overlay stands for the accounts that committing it would give. Through this view a transfer is
two writes to accounts: the sender pays, and the recipient, read after that, is credited.

## Main definitions

* `Accounts.accountOf`: what an address has, with or without an account
* `Accounts.Transfers m tx m'`: an accepted transaction `tx` turns the accounts `m` into `m'`
* `Overlay.Outcome`: the ways in which a transfer on an overlay may end

## Main results

* `Overlay.get?_commit`, `Overlay.commit_set`: an overlay reads and writes the accounts that it
  stands for
* `Overlay.outcome_transfer`: every transfer ends in one of these ways
* `Overlay.transfers_of_transfer`: what a transfer does that goes through
* `Accounts.Transfers.nonce_accountOf`, `Accounts.Transfers.balance_accountOf`,
  `Accounts.Transfers.get?_isSome_iff`: nonces, balances and addresses after a transfer
-/

namespace HostedLedger

/-! ### The accounts of an overlay -/

namespace Overlay

@[simp] theorem commit_ofAccounts (m : Accounts) : (ofAccounts m).commit = m := rfl

theorem get?_commit (o : Overlay) (address : String) :
    o.commit.get? address = o.get? address :=
  SortedMap.get?_insertMany o.committed o.writes.pairwise_ne address

theorem get?_set (o : Overlay) (address address' : String) (account : Account) :
    (o.set address account).get? address' =
      if address' = address then some account else o.get? address' := by
  simp only [get?, set, SortedMap.get?_insert]
  split <;> simp

theorem commit_set (o : Overlay) (address : String) (account : Account) :
    (o.set address account).commit = o.commit.insert address account := by
  apply SortedMap.ext_get?
  intro address'
  rw [get?_commit, get?_set, SortedMap.get?_insert, get?_commit]

end Overlay

/-! ### The checks of a transaction -/

namespace Transaction

theorem checkFields_eq_ok_iff {tx : Transaction} :
    tx.checkFields = .ok () ↔ tx.sender ≠ "" ∧ tx.recipient ≠ "" ∧ tx.amount ≠ 0 := by
  unfold checkFields
  split
  · simp [*]
  · split
    · simp [*]
    · split <;> simp [*]

theorem cost?_eq_some_iff {tx : Transaction} {cost : UInt64} :
    tx.cost? = some cost ↔ tx.amount.toNat + tx.gasFee.toNat = cost.toNat :=
  Word.add?_eq_some_iff

/-- A sender that has the right nonce and enough balance pays the amount and the fee. -/
theorem debit_eq_ok {tx : Transaction} {sender payer : Account}
    (h : tx.debit sender = .ok payer) :
    tx.nonce = sender.nonce ∧ payer.nonce.toNat = sender.nonce.toNat + 1 ∧
      payer.balance.toNat + (tx.amount.toNat + tx.gasFee.toNat) = sender.balance.toNat := by
  unfold debit at h
  split at h
  · cases h
  next hnonce =>
  split at h
  · cases h
  next cost hcost =>
  split at h
  · cases h
  next hbalance =>
  split at h
  · cases h
  next nonce hnext =>
  cases h
  have hnext := Word.add?_eq_some_iff.mp hnext
  have hcost := cost?_eq_some_iff.mp hcost
  have hle : cost ≤ sender.balance := UInt64.not_lt.mp hbalance
  refine ⟨by simpa using hnonce, hnext.symm, ?_⟩
  rw [hcost, UInt64.toNat_sub_of_le _ _ hle]
  have := UInt64.le_iff_toNat_le.mp hle
  omega

end Transaction

/-! ### Accepted transactions -/

namespace Accounts

/-- What an address has: its account, or nothing and no transaction made. -/
def accountOf (m : Accounts) (address : String) : Account :=
  (m.get? address).getD (Account.fresh 0)

theorem accountOf_of_get? {m : Accounts} {address : String} {account : Account}
    (h : m.get? address = some account) : m.accountOf address = account := by
  rw [accountOf, h, Option.getD_some]

theorem accountOf_insert (m : Accounts) (address address' : String) (account : Account) :
    accountOf (m.insert address account) address' =
      if address' = address then account else m.accountOf address' := by
  rw [accountOf, SortedMap.get?_insert]
  split <;> rfl

/-- An accepted transaction turns accounts into others: the sender pays the amount and the fee, and
then the recipient, with what it has by now, is credited with the amount. -/
inductive Transfers (m : Accounts) (tx : Transaction) : Accounts → Prop
  | intro {sender payer credited : Account}
    (sender_ne : tx.sender ≠ "") (recipient_ne : tx.recipient ≠ "")
    (get?_sender : m.get? tx.sender = some sender)
    (nonce_eq : tx.nonce = sender.nonce)
    (payer_nonce : payer.nonce.toNat = sender.nonce.toNat + 1)
    (payer_balance :
      payer.balance.toNat + (tx.amount.toNat + tx.gasFee.toNat) = sender.balance.toNat)
    (credited_nonce : credited.nonce = (accountOf (m.insert tx.sender payer) tx.recipient).nonce)
    (credited_balance : credited.balance.toNat =
      (accountOf (m.insert tx.sender payer) tx.recipient).balance.toNat + tx.amount.toNat) :
    Transfers m tx ((m.insert tx.sender payer).insert tx.recipient credited)

end Accounts

/-! ### Transfers on an overlay -/

namespace Overlay

/-- What a transfer may do on an overlay. It reads the accounts that the overlay stands for, and
writes the sender's account before it reads the recipient's. -/
inductive Outcome (o : Overlay) (tx : Transaction) : Overlay → Except TransferError Unit → Prop
  /-- A field is refused. -/
  | malformed {e : TransferError} (fields : tx.checkFields = .error e) : Outcome o tx o (.error e)
  /-- The sender has no account. -/
  | unknown (fields : tx.checkFields = .ok ()) (absent : o.commit.get? tx.sender = none) :
    Outcome o tx o (.error (.unknownSender tx.sender))
  /-- The sender cannot pay. -/
  | unpaid {sender : Account} {e : TransferError} (fields : tx.checkFields = .ok ())
    (present : o.commit.get? tx.sender = some sender) (debit : tx.debit sender = .error e) :
    Outcome o tx o (.error e)
  /-- The sender has paid what the recipient cannot hold. -/
  | overflow {sender payer : Account} (fields : tx.checkFields = .ok ())
    (present : o.commit.get? tx.sender = some sender) (debit : tx.debit sender = .ok payer)
    (full : UInt64.size ≤
      (Accounts.accountOf (o.commit.insert tx.sender payer) tx.recipient).balance.toNat +
        tx.amount.toNat) :
    Outcome o tx (o.set tx.sender payer) (.error .recipientOverflow)
  /-- The sender has paid, and the recipient is credited. -/
  | accepted {sender payer credited : Account} (fields : tx.checkFields = .ok ())
    (present : o.commit.get? tx.sender = some sender) (debit : tx.debit sender = .ok payer)
    (credited_nonce : credited.nonce =
      (Accounts.accountOf (o.commit.insert tx.sender payer) tx.recipient).nonce)
    (credited_balance : credited.balance.toNat =
      (Accounts.accountOf (o.commit.insert tx.sender payer) tx.recipient).balance.toNat +
        tx.amount.toNat) :
    Outcome o tx ((o.set tx.sender payer).set tx.recipient credited) (.ok ())

theorem outcome_transfer (o : Overlay) (tx : Transaction) :
    o.Outcome tx (o.transfer tx).1 (o.transfer tx).2 := by
  unfold transfer
  split
  · next hfields => exact .malformed hfields
  next hfields =>
  split
  · next hsender => exact .unknown hfields (by rw [get?_commit, hsender])
  next sender hsender =>
  rw [← get?_commit] at hsender
  split
  · next hdebit => exact .unpaid hfields hsender hdebit
  next payer hdebit =>
  have hrecipient : ((o.set tx.sender payer).get? tx.recipient).getD (Account.fresh 0) =
      Accounts.accountOf (o.commit.insert tx.sender payer) tx.recipient := by
    rw [Accounts.accountOf, ← commit_set, get?_commit]
  dsimp only
  rw [hrecipient]
  split
  · next hfull => exact .overflow hfields hsender hdebit (Word.add?_eq_none_iff.mp hfull)
  · next hbalance =>
    exact .accepted hfields hsender hdebit rfl (Word.add?_eq_some_iff.mp hbalance).symm

theorem outcome_of_transfer {o o' : Overlay} {tx : Transaction} {answer : Except TransferError Unit}
    (h : o.transfer tx = (o', answer)) : o.Outcome tx o' answer := by
  have houtcome := o.outcome_transfer tx
  rwa [h] at houtcome

/-- A transfer that goes through on an overlay is one on the accounts that it stands for. -/
theorem transfers_of_transfer {o o' : Overlay} {tx : Transaction}
    (h : o.transfer tx = (o', .ok ())) : o.commit.Transfers tx o'.commit := by
  cases outcome_of_transfer h with
  | accepted fields present debit credited_nonce credited_balance =>
    obtain ⟨hs, hr, -⟩ := Transaction.checkFields_eq_ok_iff.mp fields
    obtain ⟨hnonce, hnext, hcost⟩ := Transaction.debit_eq_ok debit
    rw [commit_set, commit_set]
    exact .intro hs hr present hnonce hnext hcost credited_nonce credited_balance

end Overlay

namespace Accounts.Transfers

variable {m m' : Accounts} {tx : Transaction}

theorem recipient_ne (h : m.Transfers tx m') : tx.recipient ≠ "" := by
  cases h
  assumption

theorem isSome_sender (h : m.Transfers tx m') : (m.get? tx.sender).isSome := by
  cases h with
  | intro _ _ hsender =>
    rw [hsender]
    rfl

/-- An accepted transaction carries the nonce of its sender's account. -/
theorem nonce_eq (h : m.Transfers tx m') : tx.nonce = (m.accountOf tx.sender).nonce := by
  cases h with
  | intro _ _ hsender hnonce => rw [accountOf_of_get? hsender, hnonce]

/-- A transfer makes an account for its recipient, if there was none, and for nobody else. -/
theorem get?_isSome_iff (h : m.Transfers tx m') (address : String) :
    (m'.get? address).isSome ↔ (m.get? address).isSome ∨ address = tx.recipient := by
  cases h with
  | intro _ _ hsender =>
    rw [SortedMap.get?_insert, SortedMap.get?_insert]
    split
    · simp [*]
    · split
      · simp [*]
      · simp [*]

/-- A transaction counts for its sender, whose nonce grows by one; all other nonces stay. -/
theorem nonce_accountOf (h : m.Transfers tx m') (address : String) :
    (m'.accountOf address).nonce.toNat =
      (m.accountOf address).nonce.toNat + if tx.sender = address then 1 else 0 := by
  cases h with
  | @intro sender payer credited _ _ hsender _ hpayer _ hcredited =>
    have hkeep : (accountOf ((m.insert tx.sender payer).insert tx.recipient credited) address).nonce
        = (accountOf (m.insert tx.sender payer) address).nonce := by
      rw [accountOf_insert]
      split
      · next he => rw [he, hcredited]
      · rfl
    rw [hkeep, accountOf_insert]
    by_cases he : tx.sender = address
    · rw [if_pos he.symm, if_pos he, hpayer, ← he, accountOf_of_get? hsender]
    · rw [if_neg (Ne.symm he), if_neg he, Nat.add_zero]

/-- The sender pays the amount and the fee, and the recipient gets the amount; if they are one, it
pays and gets, and all other balances stay. -/
theorem balance_accountOf (h : m.Transfers tx m') (address : String) :
    (m'.accountOf address).balance.toNat +
        (if tx.sender = address then tx.amount.toNat + tx.gasFee.toNat else 0) =
      (m.accountOf address).balance.toNat +
        if tx.recipient = address then tx.amount.toNat else 0 := by
  cases h with
  | @intro sender payer credited _ _ hsender _ _ hpayer _ hcredited =>
    have hcredit :
        (accountOf ((m.insert tx.sender payer).insert tx.recipient credited) address).balance.toNat
          = (accountOf (m.insert tx.sender payer) address).balance.toNat +
            if tx.recipient = address then tx.amount.toNat else 0 := by
      rw [accountOf_insert _ tx.recipient]
      by_cases he : tx.recipient = address
      · rw [if_pos he.symm, if_pos he, hcredited, he]
      · rw [if_neg (Ne.symm he), if_neg he, Nat.add_zero]
    have hpaid : (accountOf (m.insert tx.sender payer) address).balance.toNat +
        (if tx.sender = address then tx.amount.toNat + tx.gasFee.toNat else 0) =
          (m.accountOf address).balance.toNat := by
      rw [accountOf_insert]
      by_cases he : tx.sender = address
      · rw [if_pos he.symm, if_pos he, hpayer, ← he, accountOf_of_get? hsender]
      · rw [if_neg (Ne.symm he), if_neg he, Nat.add_zero]
    rw [hcredit, Nat.add_right_comm, hpaid]

/-- Who neither pays nor is paid keeps what it has. -/
theorem get?_of_ne (h : m.Transfers tx m') {address : String} (sender : address ≠ tx.sender)
    (recipient : address ≠ tx.recipient) : m'.get? address = m.get? address := by
  cases h with
  | intro => rw [SortedMap.get?_insert_of_ne _ recipient, SortedMap.get?_insert_of_ne _ sender]

end Accounts.Transfers

end HostedLedger
