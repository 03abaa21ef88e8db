import HostedLedger.Proofs.Account.Commutation
import HostedLedger.Proofs.Interleaving
import HostedLedger.Proofs.Ledger.Call

/-!
# Concurrent senders

Several senders hand in lists of transactions at the same time, and the transactions arrive in some
order that keeps the order of each list. If no sender pays another one, the order is of no account:
all transactions are accepted in every order or in none, and lead to the same accounts. Recipients
who send nothing may be shared.

## Main definitions

* `Ledger.AcceptsAll l txs`: a ledger accepts transactions one after the other

## Main results

* `Ledger.acceptsAll_iff`: accepting transactions is a run of transfers on the accounts
* `Ledger.concurrent_senders_commute`: the order in which lists of different senders are interleaved
  is of no account
-/

namespace HostedLedger

namespace Ledger

/-- Every one of some transactions is accepted when they are applied one after the other. -/
def AcceptsAll (l : Ledger) (txs : List Transaction) : Prop :=
  ∀ step ∈ perform.steps l (txs.map .apply), step.answer = .ok none

/-- A transaction is accepted if the transfer goes through on the accounts, and is otherwise refused
without a change. -/
theorem perform_apply (l : Ledger) (tx : Transaction) :
    (∃ accounts, l.accounts.transfer? tx = some accounts ∧
      l.perform (.apply tx) = ({ l with accounts, pending := l.pending ++ [tx] }, .ok none)) ∨
    (l.accounts.transfer? tx = none ∧ ∃ e, l.perform (.apply tx) = (l, .error e)) := by
  have htransfer := (Overlay.ofAccounts l.accounts).commit_transfer tx
  change l.accounts.transfer? tx = _ at htransfer
  rw [perform, apply, htransfer]
  rcases (Overlay.ofAccounts l.accounts).transfer tx with ⟨o, e | _⟩
  · exact .inr ⟨rfl, _, rfl⟩
  · exact .inl ⟨_, rfl, rfl⟩

/-- Transactions are all accepted if their transfers go through one after the other on the accounts,
and then lead to the accounts that these lead to. -/
theorem acceptsAll_iff {l : Ledger} {txs : List Transaction} {accounts : Accounts} :
    l.AcceptsAll txs ∧ (perform.after l (txs.map .apply)).accounts = accounts ↔
      txs.foldlM Accounts.transfer? l.accounts = some accounts := by
  induction txs generalizing l with
  | nil =>
    simp [AcceptsAll]
  | cons tx txs ih =>
    rw [AcceptsAll, List.map_cons, Machine.steps_cons, Machine.after_cons, List.forall_mem_cons,
      Machine.step, List.foldlM_cons]
    rcases l.perform_apply tx with ⟨accounts', htransfer, hperform⟩ | ⟨htransfer, e, hperform⟩
    · rw [htransfer, hperform]
      simpa [AcceptsAll] using ih (l := { l with accounts := accounts', pending := _ })
    · rw [htransfer, hperform]
      simp

/-- **Concurrent senders commute.** Let lists of transactions have different senders, one for each
list, none of whom is the recipient of a transaction of another list. If a ledger accepts every
transaction in one interleaving of the lists, it accepts every transaction in all of them, and they
lead to the same accounts. -/
theorem concurrent_senders_commute {ι : Type} [DecidableEq ι] {sender : ι → String}
    (distinct : Function.Injective sender) {lists : ι → List Transaction}
    (own : ∀ i, ∀ tx ∈ lists i, tx.sender = sender i)
    (apart : ∀ i j, i ≠ j → ∀ tx ∈ lists i, tx.recipient ≠ sender j) (l : Ledger)
    {txs txs' : List Transaction} (interleaves : Interleaves lists txs)
    (interleaves' : Interleaves lists txs') (accepts : l.AcceptsAll txs) :
    let end₁ := perform.after l (txs.map .apply)
    let end₂ := perform.after l (txs'.map .apply)
    l.AcceptsAll txs' ∧ end₂.accounts = end₁.accounts ∧ end₂.stateRoot = end₁.stateRoot ∧
      end₂.supply = end₁.supply := by
  intro end₁ end₂
  have hcommutes : ∀ i j, i ≠ j → ∀ t ∈ lists i, ∀ u ∈ lists j,
      Commutes Accounts.transfer? t u := by
    intro i j hij t ht u hu m
    apply m.transfer?_comm
    · rw [own i t ht, own j u hu]
      exact distinct.ne hij
    · rw [own j u hu]
      exact apart i j hij t ht
    · rw [own i t ht]
      exact apart j i (Ne.symm hij) u hu
  have htransfers : txs.foldlM Accounts.transfer? l.accounts = some end₁.accounts :=
    acceptsAll_iff.mp ⟨accepts, rfl⟩
  rw [interleaves.foldlM_eq hcommutes interleaves'] at htransfers
  obtain ⟨haccepts, haccounts⟩ := acceptsAll_iff.mpr htransfers
  change end₂.accounts = end₁.accounts at haccounts
  refine ⟨haccepts, haccounts, ?_, ?_⟩
  · rw [stateRoot, haccounts, stateRoot]
  · rw [supply, haccounts, supply]

/-- Two senders pay a third address, which has no account yet, and one of them pays itself before
that. -/
theorem concurrent_senders_commute_sharedRecipient :
    let l := perform.after (new default) [.initAccount "alice" 100, .initAccount "bob" 50]
    let self : Transaction := ⟨"alice", "alice", 10, 2, 0, 0, []⟩
    let alice : Transaction := ⟨"alice", "carol", 60, 1, 0, 1, []⟩
    let bob : Transaction := ⟨"bob", "carol", 40, 3, 0, 0, []⟩
    l.AcceptsAll [self, alice, bob] ∧ l.AcceptsAll [bob, self, alice] ∧
      (perform.after l ([bob, self, alice].map .apply)).stateRoot =
        (perform.after l ([self, alice, bob].map .apply)).stateRoot := by
  intro l self alice bob
  have htransfers : ([self, alice, bob].foldlM Accounts.transfer? l.accounts).isSome = true := by
    decide +kernel
  obtain ⟨accounts, haccounts⟩ := Option.isSome_iff_exists.mp htransfers
  have accepts : l.AcceptsAll [self, alice, bob] := (acceptsAll_iff.mpr haccounts).1
  let lists : Bool → List Transaction := fun i => bif i then [self, alice] else [bob]
  have first : Interleaves lists [self, alice, bob] :=
    .cons (i := true) rfl (.cons (i := true) rfl (.cons (i := false) rfl (.nil (by decide))))
  have second : Interleaves lists [bob, self, alice] :=
    .cons (i := false) rfl (.cons (i := true) rfl (.cons (i := true) rfl (.nil (by decide))))
  have distinct : Function.Injective fun i : Bool => bif i then "alice" else "bob" := by
    unfold Function.Injective
    decide
  obtain ⟨haccepts, -, hroot, -⟩ := concurrent_senders_commute distinct (by decide) (by decide) l
    first second accepts
  exact ⟨accepts, haccepts, hroot⟩

end Ledger

end HostedLedger
