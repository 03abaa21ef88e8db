import HostedLedger.Proofs.Ledger.Call
import Mathlib.Data.List.Nodup

/-!
# The history of a ledger

The transactions in the blocks and in the pool are the ones that have been accepted, each of them
once and in the order of acceptance. The nonce of an address counts those that it has made, so no
transaction can be accepted again.

## Main definitions

* `Ledger.history`: the transactions of the blocks, then those of the pool
* `Ledger.Recorded`: the accounts agree with the history

## Main results

* `Ledger.history_after`: a run adds the transactions that it accepts to the history
* `Ledger.recorded_after`: every run keeps the accounts in agreement with the history
* `Ledger.replay_protection`: the history of every reachable ledger
-/

namespace HostedLedger

namespace Ledger

variable {l l' : Ledger} {call : Call} {answer : Answer}

/-- The transactions that a ledger holds: those of its blocks, then those that wait. -/
def history (l : Ledger) : List Transaction := l.chain.flatMap (·.transactions) ++ l.pending

theorem history_of_effect (h : Effect l call answer l') :
    l'.history = l.history ++ accepted ⟨l, call, answer⟩ := by
  cases h with
  | @refused call e =>
    cases call <;> exact (List.append_nil _).symm
  | initAccount => exact (List.append_nil _).symm
  | apply => exact (List.append_assoc ..).symm
  | sealBlock _ _ block_eq =>
    obtain ⟨_, _, -, -, rfl⟩ := nextBlock_eq_ok_iff.mp block_eq
    simp [history, accepted]

/-- A run adds the transactions that it accepts, in their order. -/
theorem history_after (l : Ledger) (calls : List Call) :
    (perform.after l calls).history = l.history ++ (perform.steps l calls).flatMap accepted :=
  obeys_effect.after_eq_append (f := history) history_of_effect l calls

/-! ### Accounts -/

theorem nonce_eq_accountOf (l : Ledger) (address : String) :
    l.nonce address = (l.accounts.accountOf address).nonce := by
  rw [nonce, account?, Accounts.accountOf]
  cases l.accounts.get? address <;> rfl

/-- Accounts never disappear. -/
theorem isSome_account?_of_effect (h : Effect l call answer l') {address : String}
    (hl : (l.account? address).isSome) : (l'.account? address).isSome := by
  cases h with
  | refused => exact hl
  | initAccount =>
    rw [account?, SortedMap.get?_insert]
    split
    · rfl
    · exact hl
  | apply transfers => exact (transfers.get?_isSome_iff address).mpr (.inl hl)
  | sealBlock => exact hl

theorem isSome_account?_after {address : String} (hl : (l.account? address).isSome)
    (calls : List Call) : ((perform.after l calls).account? address).isSome :=
  obeys_effect.after_induction (P := fun l => (l.account? address).isSome)
    (fun h hl => isSome_account?_of_effect h hl) hl calls

/-- The empty text never gets an account. -/
theorem account?_empty_of_effect (h : Effect l call answer l') (hl : l.account? "" = none) :
    l'.account? "" = none := by
  cases h with
  | refused => exact hl
  | initAccount address_ne =>
    rw [account?, SortedMap.get?_insert, if_neg (Ne.symm address_ne)]
    exact hl
  | @apply tx accounts transfers =>
    have hiff := transfers.get?_isSome_iff ""
    rw [← Option.not_isSome_iff_eq_none] at hl ⊢
    rintro hsome
    rcases hiff.mp hsome with h | h
    · exact hl h
    · exact transfers.recipient_ne h.symm
  | sealBlock => exact hl

/-- An accepted transaction counts for its sender, and nothing else changes a nonce. -/
theorem nonce_of_effect (h : Effect l call answer l') (address : String) :
    (l'.nonce address).toNat =
      (l.nonce address).toNat +
        ((accepted ⟨l, call, answer⟩).filter (·.sender = address)).length := by
  cases h with
  | @refused call e => cases call <;> rfl
  | initAccount =>
    simp only [nonce_eq_accountOf, Accounts.accountOf_insert]
    split
    · next h => rw [h]; rfl
    · rfl
  | @apply tx accounts transfers =>
    rw [nonce_eq_accountOf, nonce_eq_accountOf, transfers.nonce_accountOf]
    by_cases h : tx.sender = address <;> simp [accepted, h]
  | sealBlock => rfl

/-! ### Agreement -/

/-- The accounts agree with the history: the transactions of an address carry the nonces below that
of its account, in ascending order, and whoever takes part in one has an account. -/
structure Recorded (l : Ledger) : Prop where
  nonces_eq : ∀ address,
    (l.history.filter (·.sender = address)).map (·.nonce.toNat) =
      List.range (l.nonce address).toNat
  nodup : (l.history.map fun tx => (tx.sender, tx.nonce)).Nodup
  isSome : ∀ tx ∈ l.history, (l.account? tx.sender).isSome ∧ (l.account? tx.recipient).isSome
  empty : l.account? "" = none

theorem recorded_new (policy : Policy) : (new policy).Recorded where
  nonces_eq _ := rfl
  nodup := .nil
  isSome tx h := by simp [history, new] at h
  empty := rfl

/-- A transaction in the history carries a nonce below that of its sender's account. -/
theorem Recorded.nonce_lt (hl : l.Recorded) {tx : Transaction} (h : tx ∈ l.history) :
    tx.nonce.toNat < (l.nonce tx.sender).toNat := by
  rw [← List.mem_range, ← hl.nonces_eq]
  apply List.mem_map.mpr
  exact ⟨tx, List.mem_filter.mpr ⟨h, by simp⟩, rfl⟩

/-- No address has made more transactions than there are. -/
theorem Recorded.nonce_le (hl : l.Recorded) (address : String) :
    (l.nonce address).toNat ≤ l.history.length := by
  have hcount := congrArg List.length (hl.nonces_eq address)
  rw [List.length_map, List.length_range] at hcount
  rw [← hcount]
  exact List.length_filter_le ..

/-- An effect accepts no transaction, or one that carries the nonce of its sender's account and
whose sender and recipient have accounts afterwards. -/
theorem accepted_of_effect (h : Effect l call answer l') :
    accepted ⟨l, call, answer⟩ = [] ∨ ∃ tx, accepted ⟨l, call, answer⟩ = [tx] ∧
      tx.nonce = l.nonce tx.sender ∧ (l'.account? tx.sender).isSome ∧
      (l'.account? tx.recipient).isSome := by
  cases h with
  | @refused call e =>
    left
    cases call <;> rfl
  | initAccount => exact .inl rfl
  | @apply tx accounts transfers =>
    refine .inr ⟨tx, rfl, ?_, ?_, ?_⟩
    · rw [nonce_eq_accountOf, transfers.nonce_eq]
    · exact (transfers.get?_isSome_iff _).mpr (.inl transfers.isSome_sender)
    · exact (transfers.get?_isSome_iff _).mpr (.inr rfl)
  | sealBlock => exact .inl rfl

theorem recorded_of_effect (h : Effect l call answer l') (hl : l.Recorded) : l'.Recorded := by
  have hhistory := history_of_effect h
  have hnonce := nonce_of_effect h
  have hempty := account?_empty_of_effect h hl.empty
  have hkeep : ∀ tx ∈ l.history,
      (l'.account? tx.sender).isSome ∧ (l'.account? tx.recipient).isSome := fun tx htx =>
    ⟨isSome_account?_of_effect h (hl.isSome tx htx).1,
      isSome_account?_of_effect h (hl.isSome tx htx).2⟩
  rcases accepted_of_effect h with hnone | ⟨tx, hsome, htx, hsender, hrecipient⟩
  · rw [hnone, List.append_nil] at hhistory
    simp only [hnone, List.filter_nil, List.length_nil, Nat.add_zero] at hnonce
    refine ⟨fun address => ?_, ?_, ?_, hempty⟩
    · rw [hhistory, hnonce, hl.nonces_eq]
    · rw [hhistory]
      exact hl.nodup
    · rw [hhistory]
      exact hkeep
  · rw [hsome] at hhistory
    simp only [hsome] at hnonce
    refine ⟨fun address => ?_, ?_, ?_, hempty⟩
    · rw [hhistory, hnonce, List.filter_append, List.map_append, hl.nonces_eq]
      by_cases hs : tx.sender = address
      · subst hs
        simp [List.range_succ, htx]
      · simp [hs]
    · rw [hhistory, List.map_append, List.nodup_append]
      refine ⟨hl.nodup, by simp, ?_⟩
      rintro _ hearlier _ ht rfl
      obtain ⟨s, hs, rfl⟩ := List.mem_map.mp hearlier
      rw [List.map_singleton, List.mem_singleton] at ht
      obtain ⟨hs', hn'⟩ := Prod.mk.inj ht
      have hlt := hl.nonce_lt hs
      rw [hs', hn', htx] at hlt
      exact Nat.lt_irrefl _ hlt
    · rw [hhistory]
      intro s hs
      rcases List.mem_append.mp hs with hs | hs
      · exact hkeep s hs
      · rw [List.mem_singleton.mp hs]
        exact ⟨hsender, hrecipient⟩

/-- Every run from the empty ledger keeps the accounts in agreement with the history. -/
theorem recorded_after (policy : Policy) (calls : List Call) :
    (perform.after (new policy) calls).Recorded :=
  obeys_effect.after_induction recorded_of_effect (recorded_new policy) calls

/-- **Replay protection.** The transactions in the blocks and in the pool of a reachable ledger are
the accepted ones, in the order of acceptance. Those of an address carry the nonces from zero on,
the account of the address counts them, and no transaction of an address is repeated. Whoever takes
part in one has an account, accounts have addresses, and they never disappear. -/
theorem replay_protection (policy : Policy) (calls : List Call) :
    let l := perform.after (new policy) calls
    l.history = (perform.steps (new policy) calls).flatMap accepted ∧
    (∀ address,
      (l.nonce address).toNat = (l.history.filter (·.sender = address)).length) ∧
    (∀ address i (tx : Transaction),
      (l.history.filter (·.sender = address))[i]? = some tx → tx.nonce.toNat = i) ∧
    (l.history.map fun tx => (tx.sender, tx.nonce)).Nodup ∧
    (∀ tx ∈ l.history, (l.account? tx.sender).isSome ∧ (l.account? tx.recipient).isSome) ∧
    l.account? "" = none ∧
    ∀ more address, (l.account? address).isSome →
      ((perform.after l more).account? address).isSome := by
  intro l
  have hl : l.Recorded := recorded_after policy calls
  refine ⟨history_after (new policy) calls, fun address => ?_, fun address i tx hi => ?_,
    hl.nodup, hl.isSome, hl.empty, fun more address h => isSome_account?_after h more⟩
  · rw [← List.length_map, hl.nonces_eq, List.length_range]
  · have hrange : (List.range (l.nonce address).toNat)[i]? = some tx.nonce.toNat := by
      rw [← hl.nonces_eq, List.getElem?_map, hi]
      rfl
    obtain ⟨_, h⟩ := List.getElem?_eq_some_iff.mp hrange
    rw [← h, List.getElem_range]

/-- The payment of an address to itself is its second transaction and carries the nonce one. -/
theorem replay_protection_mixedCalls :
    let l := perform.after (new default) mixedCalls
    (l.history.filter (·.sender = "alice"))[1]? =
        some ⟨"alice", "alice", 7, 2, 0, 1, [1]⟩ ∧
      (⟨"alice", "alice", 7, 2, 0, 1, [1]⟩ : Transaction).nonce.toNat = 1 ∧
      (l.nonce "alice").toNat = 2 := by
  intro l
  have hsecond : (l.history.filter (·.sender = "alice"))[1]? =
      some ⟨"alice", "alice", 7, 2, 0, 1, [1]⟩ := by decide +kernel
  obtain ⟨-, hcount, hplace, -⟩ := replay_protection default mixedCalls
  refine ⟨hsecond, hplace "alice" 1 _ hsecond, ?_⟩
  rw [hcount]
  decide +kernel

end Ledger

end HostedLedger
