import HostedLedger.Proofs.Ledger.Payment

/-!
# Transactions on a shared overlay

Transactions may be carried out one after the other on one overlay, whose writes are committed at
the end, or each on an overlay of its own, whose writes are committed at once. Both give the same
answers and the same accounts, since a transfer sees of an overlay only the accounts that it stands
for. A ledger drops the writes of a transaction that it rejects. This makes a difference only where
the sender has paid before the transaction fails, that is, where the recipient's balance overflows.

## Main definitions

* `Accounts.attempt`: a transaction on an overlay of its own, committed whatever the answer is
* `Overlay.Charges`: the sender has paid, and nothing else has been written

## Main results

* `Overlay.map_transfer`: a transfer on an overlay is an attempt on the accounts it stands for
* `Overlay.of_transfer_error`: what a failed transfer leaves on an overlay
* `Ledger.shared_overlay_agrees`: one overlay for all transactions is one overlay for each, and it
  is a run of the ledger where no recipient overflows
-/

namespace HostedLedger

/-! ### What a transfer sees of an overlay -/

/-- A transaction on an overlay of its own, whose writes are committed whether it goes through or
not. -/
def Accounts.attempt : Machine Accounts Transaction (Except TransferError Unit) :=
  fun m tx => ((Overlay.ofAccounts m).transfer tx).map Overlay.commit id

namespace Overlay

variable {o o' : Overlay} {tx : Transaction} {e : TransferError}

/-- Overlays that stand for the same accounts do so after a transfer, and answer it alike. -/
theorem transfer_congr {p : Overlay} (h : o.commit = p.commit) (tx : Transaction) :
    (o.transfer tx).map commit id = (p.transfer tx).map commit id := by
  have hread (address : String) : o.get? address = p.get? address := by
    rw [← get?_commit, h, get?_commit]
  have hreread (payer : Account) :
      (o.set tx.sender payer).get? tx.recipient = (p.set tx.sender payer).get? tx.recipient := by
    rw [get?_set, get?_set, hread]
  unfold transfer
  rw [hread]
  split
  · exact Prod.ext h rfl
  split
  · exact Prod.ext h rfl
  split
  · exact Prod.ext h rfl
  next payer _ =>
  dsimp only
  rw [hreread]
  split
  · exact Prod.ext (by simp only [Prod.map, commit_set, h]) rfl
  · exact Prod.ext (by simp only [Prod.map, commit_set, h]) rfl

theorem map_transfer (o : Overlay) (tx : Transaction) :
    (o.transfer tx).map commit id = o.commit.attempt tx :=
  transfer_congr (p := ofAccounts o.commit) (commit_ofAccounts _).symm tx

/-! ### What a failed transfer leaves behind -/

/-- The sender has been debited with the cost of a transaction and its nonce has grown by one;
nothing else has been written. -/
def Charges (o : Overlay) (tx : Transaction) (o' : Overlay) : Prop :=
  ∃ sender payer, o.get? tx.sender = some sender ∧
    payer.balance.toNat + (tx.amount.toNat + tx.gasFee.toNat) = sender.balance.toNat ∧
    payer.nonce.toNat = sender.nonce.toNat + 1 ∧
    o' = o.set tx.sender payer

/-- A payment shows in the writes, since the nonce grows. -/
theorem Charges.writes_ne (h : o.Charges tx o') : o'.writes ≠ o.writes := by
  obtain ⟨sender, payer, hsender, -, hnonce, rfl⟩ := h
  intro hwrites
  have hget : (o.set tx.sender payer).get? tx.sender = o.get? tx.sender := by
    rw [get?, hwrites]
    rfl
  rw [get?_set, if_pos rfl, hsender, Option.some.injEq] at hget
  rw [hget] at hnonce
  omega

/-- A transfer that fails has written nothing, unless the sender has paid what the recipient cannot
hold. -/
theorem of_transfer_error (h : o.transfer tx = (o', .error e)) :
    (e ≠ .recipientOverflow ∧ o' = o) ∨ (e = .recipientOverflow ∧ o.Charges tx o') := by
  cases outcome_of_transfer h with
  | malformed fields =>
    have hne : ∀ r ∈ tx.fieldRequirements, r.refusal ≠ .recipientOverflow := by
      simp [Transaction.fieldRequirements]
    rw [Transaction.checkFields_eq] at fields
    obtain ⟨r, hr, rfl⟩ := Requirement.exists_mem_of_checkAll fields
    exact .inl ⟨hne r hr, rfl⟩
  | unknown => exact .inl ⟨by simp, rfl⟩
  | @unpaid sender _ fields present debit =>
    have hne : ∀ r ∈ tx.paymentRequirements sender, r.refusal ≠ .recipientOverflow := by
      simp [Transaction.paymentRequirements]
    have hcheck := tx.map_debit sender
    rw [debit] at hcheck
    obtain ⟨r, hr, rfl⟩ := Requirement.exists_mem_of_checkAll hcheck.symm
    exact .inl ⟨hne r hr, rfl⟩
  | overflow fields present debit full =>
    rw [get?_commit] at present
    obtain ⟨-, hnonce, hbalance⟩ := Transaction.debit_eq_ok debit
    exact .inr ⟨rfl, _, _, present, hbalance, hnonce, rfl⟩

theorem writes_ne_iff (h : o.transfer tx = (o', .error e)) :
    o'.writes ≠ o.writes ↔ e = .recipientOverflow := by
  rcases of_transfer_error h with ⟨hne, rfl⟩ | ⟨heq, hcharges⟩
  · exact iff_of_false (absurd rfl) hne
  · exact iff_of_true hcharges.writes_ne heq

end Overlay

/-! ### Runs -/

/-- Transfers on one overlay are attempts on the accounts that it stands for. -/
theorem Overlay.answers_transfer (o : Overlay) (txs : List Transaction) :
    Accounts.attempt.answers o.commit txs = Machine.answers transfer o txs ∧
      (Machine.after transfer o txs).commit = Accounts.attempt.after o.commit txs := by
  have hstep {o : Overlay} {m : Accounts} (tx : Transaction) (h : o.commit = m) :
      (Accounts.attempt m tx).2 = id (o.transfer tx).2 ∧
        (o.transfer tx).1.commit = (Accounts.attempt m tx).1 := by
    rw [← h, ← map_transfer]
    exact ⟨rfl, rfl⟩
  rw [← List.map_id (Machine.answers transfer o txs)]
  exact Machine.answers_eq_map transfer (R := fun o m => o.commit = m) (P := fun _ => True)
    (fun tx h => (hstep tx h).1) (fun tx h _ => (hstep tx h).2) rfl (.inl fun _ _ => trivial)

namespace Ledger

/-- A ledger attempts a transaction, and takes over what has been written if it goes through. -/
theorem apply_eq_attempt (l : Ledger) (tx : Transaction) :
    l.apply tx =
      match l.accounts.attempt tx with
      | (_, .error e) => (l, .error (.transfer e))
      | (accounts, .ok ()) => ({ l with accounts, pending := l.pending ++ [tx] }, .ok ()) := by
  rw [apply, Accounts.attempt]
  rcases (Overlay.ofAccounts l.accounts).transfer tx with ⟨o, e | _⟩
  · rfl
  · rfl

/-- A transaction leads from the same accounts to the same accounts on a ledger and on an overlay,
except where the recipient's balance overflows. -/
theorem accounts_apply {l : Ledger} {o : Overlay} {tx : Transaction} (h : o.commit = l.accounts)
    (kept : (l.apply tx).2 ≠ .error (.transfer .recipientOverflow)) :
    (o.transfer tx).1.commit = (l.apply tx).1.accounts := by
  have hattempt := o.map_transfer tx
  rw [h] at hattempt
  rw [apply_eq_attempt, ← hattempt] at kept ⊢
  rcases htransfer : o.transfer tx with ⟨o', e | _⟩
  · rcases Overlay.of_transfer_error htransfer with ⟨-, rfl⟩ | ⟨rfl, -⟩
    · exact h
    · rw [htransfer] at kept
      exact absurd rfl kept
  · rfl

/-- Where no recipient overflows, a ledger answers transactions as one overlay for all of them
does, and ends with its accounts. -/
theorem answers_apply (l : Ledger) (txs : List Transaction)
    (kept : (∀ a ∈ Machine.answers Overlay.transfer (.ofAccounts l.accounts) txs,
        a ≠ .error .recipientOverflow) ∨
      ∀ a ∈ Machine.answers apply l txs, a ≠ .error (.transfer .recipientOverflow)) :
    Machine.answers apply l txs =
        (Machine.answers Overlay.transfer (.ofAccounts l.accounts) txs).map
          (Except.mapError .transfer) ∧
      (Machine.after Overlay.transfer (.ofAccounts l.accounts) txs).commit =
        (Machine.after apply l txs).accounts := by
  have hview (a : Except TransferError Unit) :
      a.mapError Error.transfer = .error (.transfer .recipientOverflow) ↔
        a = .error .recipientOverflow := by
    cases a <;> simp [Except.mapError]
  have hsame {o : Overlay} {l : Ledger} (tx : Transaction) (h : o.commit = l.accounts) :
      (l.apply tx).2 = (o.transfer tx).2.mapError .transfer := by
    rw [answer_apply, o.answer_transfer, h]
  refine Machine.answers_eq_map Overlay.transfer
    (R := fun (o : Overlay) (l : Ledger) => o.commit = l.accounts)
    (P := fun a : Except Error Unit => a ≠ .error (.transfer .recipientOverflow)) hsame
    (fun tx h => accounts_apply h) rfl ?_
  simpa only [Ne, hview] using kept

/-- **One overlay for all transactions is one overlay for each.** Transactions on a shared overlay,
committed at the end, get the same answers and lead to the same accounts as each on an overlay of
its own. A failed one writes to the overlay just if the recipient's balance has overflowed, and then
the sender is charged. Where none fails so, a ledger gives these answers and has these accounts. -/
theorem shared_overlay_agrees :
    (∀ (m : Accounts) (txs : List Transaction),
      Machine.answers Overlay.transfer (.ofAccounts m) txs = Accounts.attempt.answers m txs ∧
        (Machine.after Overlay.transfer (.ofAccounts m) txs).commit =
          Accounts.attempt.after m txs) ∧
    (∀ (o o' : Overlay) (tx : Transaction) (e : TransferError),
      o.transfer tx = (o', .error e) →
        (o'.writes ≠ o.writes ↔ e = .recipientOverflow) ∧
        (e = .recipientOverflow → o.Charges tx o') ∧ (e ≠ .recipientOverflow → o' = o)) ∧
    ∀ (l : Ledger) (txs : List Transaction),
      ((∀ a ∈ Machine.answers Overlay.transfer (.ofAccounts l.accounts) txs,
          a ≠ .error .recipientOverflow) ∨
        ∀ a ∈ Machine.answers apply l txs, a ≠ .error (.transfer .recipientOverflow)) →
      Machine.answers apply l txs =
          (Machine.answers Overlay.transfer (.ofAccounts l.accounts) txs).map
            (Except.mapError .transfer) ∧
        (Machine.after Overlay.transfer (.ofAccounts l.accounts) txs).commit =
          (Machine.after apply l txs).accounts := by
  refine ⟨fun m txs => ?_, fun o o' tx e h => ⟨Overlay.writes_ne_iff h, ?_⟩, answers_apply⟩
  · obtain ⟨hanswers, hafter⟩ := (Overlay.ofAccounts m).answers_transfer txs
    exact ⟨hanswers.symm, hafter⟩
  · rcases Overlay.of_transfer_error h with ⟨hne, rfl⟩ | ⟨heq, hcharges⟩
    · exact ⟨fun heq => absurd heq hne, fun _ => rfl⟩
    · exact ⟨fun _ => hcharges, fun hne => absurd heq hne⟩

/-- Transfers of which the second is rejected, the third is to the sender itself and the others make
their recipients. -/
def mixedTransfers : List Transaction :=
  [⟨"alice", "bob", 100, 1, 0, 0, []⟩, ⟨"alice", "bob", 100, 1, 0, 0, []⟩,
   ⟨"alice", "alice", 7, 2, 0, 1, []⟩, ⟨"bob", "carol", 50, 0, 0, 0, []⟩]

theorem shared_overlay_agrees_whale :
    (Machine.after Overlay.transfer (.ofAccounts whale.accounts) mixedTransfers).commit =
        (Machine.after apply whale mixedTransfers).accounts ∧
      ∃ o, (Overlay.ofAccounts whale.accounts).transfer ⟨"alice", "whale", 1, 0, 0, 0, []⟩ =
          (o, .error .recipientOverflow) ∧
        (Overlay.ofAccounts whale.accounts).Charges ⟨"alice", "whale", 1, 0, 0, 0, []⟩ o := by
  obtain ⟨-, hfailed, hledger⟩ := shared_overlay_agrees
  have hanswers : Machine.answers Overlay.transfer (.ofAccounts whale.accounts) mixedTransfers =
      [.ok (), .error (.nonceMismatch 1 0), .ok (), .ok ()] := by rfl
  refine ⟨(hledger whale mixedTransfers (.inl ?_)).2, _, rfl, (hfailed _ _ _ _ rfl).2.1 rfl⟩
  rw [hanswers]
  simp

end Ledger

end HostedLedger
