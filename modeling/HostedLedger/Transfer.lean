import HostedLedger.Account.Overlay
import HostedLedger.Transaction

/-!
# Transfers

What a transaction does to accounts. The sender pays the amount and the fee and its nonce grows by
one; then the recipient is credited with the amount. The fee is credited to nobody. The recipient
is read after the sender has been written, so a transfer to oneself costs the fee.

## Main definitions

* `Transaction.checkFields`: the checks that need no account
* `Transaction.debit`: the sender's account after it has paid
* `Overlay.transfer`: a transaction on an overlay
-/

namespace HostedLedger

namespace Transaction

/-- The checks that need no account: both addresses are given, and the amount is not zero. -/
def checkFields (tx : Transaction) : Except TransferError Unit :=
  if tx.sender = "" then .error .emptySender
  else if tx.recipient = "" then .error .emptyRecipient
  else if tx.amount = 0 then .error .zeroAmount
  else .ok ()

/-- The sender's account after it has paid; its nonce has to be the transaction's. -/
def debit (tx : Transaction) (sender : Account) : Except TransferError Account :=
  if tx.nonce ≠ sender.nonce then
    .error (.nonceMismatch sender.nonce tx.nonce)
  else
    match tx.cost? with
    | none => .error .costOverflow
    | some cost =>
      if sender.balance < cost then
        .error (.insufficientBalance sender.balance cost)
      else
        match Word.add? sender.nonce 1 with
        | none => .error .nonceOverflow
        | some nonce => .ok ⟨sender.balance - cost, nonce⟩

end Transaction

namespace Overlay

/-- A transaction on an overlay. A transaction that fails writes nothing, except that the sender
has paid where the recipient's balance would overflow. -/
def transfer (o : Overlay) (tx : Transaction) : Overlay × Except TransferError Unit :=
  match tx.checkFields with
  | .error e => (o, .error e)
  | .ok () =>
    match o.get? tx.sender with
    | none => (o, .error (.unknownSender tx.sender))
    | some sender =>
      match tx.debit sender with
      | .error e => (o, .error e)
      | .ok payer =>
        -- The sender is written before the recipient is read: they may be the same address.
        let paid := o.set tx.sender payer
        let recipient := (paid.get? tx.recipient).getD (Account.fresh 0)
        match Word.add? recipient.balance tx.amount with
        | none => (paid, .error .recipientOverflow)
        | some balance => (paid.set tx.recipient ⟨balance, recipient.nonce⟩, .ok ())

end Overlay

end HostedLedger
