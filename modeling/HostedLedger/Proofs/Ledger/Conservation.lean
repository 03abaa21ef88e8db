import HostedLedger.Proofs.Ledger.Call
import HostedLedger.Word.Lemmas
import Mathlib.Algebra.Ring.Int.Defs

/-!
# Conservation of the supply

A transaction moves its amount and burns its fee, so it lowers the supply by the fee, whoever pays
whom. Setting a balance replaces the one that was there, and nothing else moves the supply.

## Main definitions

* `Ledger.fees`: the fees of a list of transactions
* `Ledger.granted`: what a step adds to the supply by setting a balance

## Main results

* `Accounts.supply_insert`: the supply after one account is written
* `Accounts.Transfers.supply`: a transfer lowers the supply by its fee
* `Accounts.sum_take_lt`: the sum over the accounts fits into 128 bits
* `Ledger.supply_conservation`: the supply after a run
-/

namespace HostedLedger

namespace Accounts

theorem supply_eq_sum (m : Accounts) : m.supply = (m.values.map (·.balance.toNat)).sum := by
  rw [supply]
  induction m.values with
  | nil => rfl
  | cons a as ih => rw [List.foldr_cons, ih, List.map_cons, List.sum_cons]

theorem balance_accountOf (m : Accounts) (address : String) :
    (m.accountOf address).balance.toNat =
      ((m.get? address).map (·.balance.toNat)).getD 0 := by
  rw [accountOf]
  cases m.get? address <;> rfl

/-- Writing an account replaces its balance in the supply. -/
theorem supply_insert (m : Accounts) (address : String) (account : Account) :
    supply (m.insert address account) + (m.accountOf address).balance.toNat =
      m.supply + account.balance.toNat := by
  rw [supply_eq_sum, supply_eq_sum, balance_accountOf]
  exact SortedMap.sum_insert (fun a : Account => a.balance.toNat) m address account

/-- A transfer lowers the supply by its fee, to whomever the amount goes. -/
theorem Transfers.supply {m m' : Accounts} {tx : Transaction} (h : m.Transfers tx m') :
    m'.supply + tx.gasFee.toNat = m.supply := by
  cases h with
  | @intro sender payer credited _ _ hsender _ _ hpayer _ hcredited =>
    have hpay := supply_insert m tx.sender payer
    have hcredit := supply_insert (m.insert tx.sender payer) tx.recipient credited
    rw [accountOf_of_get? hsender] at hpay
    omega

/-- With fewer than `2 ^ 64` accounts, every sum on the way to the supply fits into 128 bits. -/
theorem sum_take_lt {m : Accounts} (h : m.size < UInt64.size) (n : Nat) :
    ((m.values.take n).map (·.balance.toNat)).sum < 2 ^ 128 := by
  refine Word.sum_take_lt Account.balance ?_ n
  rwa [SortedMap.values, List.length_map]

end Accounts

namespace Ledger

variable {l l' : Ledger} {call : Call} {answer : Answer}

/-- The fees of transactions, together. -/
def fees (txs : List Transaction) : Nat := (txs.map (·.gasFee.toNat)).sum

theorem fees_append (txs txs' : List Transaction) : fees (txs ++ txs') = fees txs + fees txs' := by
  rw [fees, List.map_append, List.sum_append]
  rfl

/-- What a step adds to the supply by setting a balance: the new balance less the one before. -/
def granted : Step Ledger Call Answer → Int
  | ⟨l, .initAccount address balance, .ok _⟩ => balance.toNat - (l.balance address).toNat
  | _ => 0

theorem balance_eq_accountOf (l : Ledger) (address : String) :
    l.balance address = (l.accounts.accountOf address).balance := by
  rw [balance, account?, Accounts.accountOf]
  cases l.accounts.get? address <;> rfl

/-- What one call does to the supply. -/
theorem obeys_supply : perform.Obeys fun l call answer l' =>
    match call, answer with
    | .initAccount address balance, .ok _ =>
      l'.supply + (l.balance address).toNat = l.supply + balance.toNat
    | .apply tx, .ok _ => l'.supply + tx.gasFee.toNat = l.supply
    | _, _ => l'.supply = l.supply :=
  obeys_effect.mono fun {l call answer l'} h => by
    cases h with
    | refused => cases call <;> rfl
    | @initAccount address balance _ =>
      dsimp only
      rw [balance_eq_accountOf]
      exact Accounts.supply_insert ..
    | apply transfers => exact transfers.supply
    | sealBlock => rfl

theorem supply_perform (l : Ledger) (call : Call) :
    ((l.perform call).1.supply : Int) + fees (accepted (perform.step l call)) =
      l.supply + granted (perform.step l call) := by
  have h := obeys_supply l call
  rw [Machine.step]
  generalize (l.perform call).2 = answer at h ⊢
  generalize (l.perform call).1 = l' at h ⊢
  cases call <;> cases answer <;> simp only [accepted, granted, fees, List.map_cons, List.map_nil,
    List.sum_cons, List.sum_nil] at h ⊢ <;> omega

/-- Over a run the fees of the accepted transactions leave the supply, and what has been granted
enters it. -/
theorem supply_after (l : Ledger) (calls : List Call) :
    ((perform.after l calls).supply : Int) + fees ((perform.steps l calls).flatMap accepted) =
      l.supply + ((perform.steps l calls).map granted).sum := by
  induction calls generalizing l with
  | nil => simp [fees]
  | cons call calls ih =>
    have hstep := supply_perform l call
    have hrest := ih (l.perform call).1
    rw [Machine.after_cons, Machine.steps_cons, List.flatMap_cons, fees_append, List.map_cons,
      List.sum_cons]
    omega

/-- **Conservation of the supply.** Over any run on any ledger, the supply and the fees of the
accepted transactions make up what the supply was and what has been granted. An accepted
transaction lowers the supply by its fee, setting a balance replaces the one before, and every other
call keeps the supply. The sum never needs more than 128 bits. -/
theorem supply_conservation (l : Ledger) (calls : List Call) :
    let l' := perform.after l calls
    (l'.supply : Int) + fees ((perform.steps l calls).flatMap accepted) =
      l.supply + ((perform.steps l calls).map granted).sum ∧
    (∀ call, match call, (l'.perform call).2 with
      | .initAccount address balance, .ok _ =>
        (l'.perform call).1.supply + (l'.balance address).toNat = l'.supply + balance.toNat
      | .apply tx, .ok _ => (l'.perform call).1.supply + tx.gasFee.toNat = l'.supply
      | _, _ => (l'.perform call).1.supply = l'.supply) ∧
    (l'.accounts.size < UInt64.size →
      l'.supply < 2 ^ 128 ∧
        ∀ n, ((l'.accounts.values.take n).map (·.balance.toNat)).sum < 2 ^ 128) := by
  intro l'
  refine ⟨supply_after l calls, fun call => obeys_supply l' call, fun hsize => ⟨?_, ?_⟩⟩
  · have h := Accounts.sum_take_lt hsize l'.accounts.values.length
    rwa [List.take_length, ← Accounts.supply_eq_sum] at h
  · exact Accounts.sum_take_lt hsize

/-- Of 1000 granted at first, 399 are taken back when the account is funded again, and three are
burned. -/
theorem supply_conservation_mixedCalls :
    let l := perform.after (new default) mixedCalls
    l.accounts.size < UInt64.size ∧ l.supply = 598 ∧ l.supply < 2 ^ 128 := by
  intro l
  obtain ⟨hsupply, -, hbound⟩ := supply_conservation (new default) mixedCalls
  have hsize : l.accounts.size < UInt64.size := by decide +kernel
  refine ⟨hsize, ?_, (hbound hsize).1⟩
  have hgranted : ((perform.steps (new default) mixedCalls).map granted).sum = 601 := by
    decide +kernel
  have hfees : fees ((perform.steps (new default) mixedCalls).flatMap accepted) = 3 := by
    decide +kernel
  have hnew : (new default).supply = 0 := rfl
  rw [hgranted, hfees, hnew] at hsupply
  change (l.supply : Int) + _ = _ at hsupply
  omega

end Ledger

end HostedLedger
