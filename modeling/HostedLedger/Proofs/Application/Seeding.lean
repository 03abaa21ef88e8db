import HostedLedger.Proofs.Application.Request
import HostedLedger.SortedMap.Insertions

/-!
# Seeding a ledger

Seeding gives every address of a list the balance of its last entry, and leaves everything else as
it is: nonces, the accounts of other addresses, the pool and the chain. Since only the last entries
count, seeding twice is seeding once, and entries with different addresses may change places. A
request to initialise the chain seeds the ledger with all of its entries or refuses them all.

## Main definitions

* `GenesisAccount.lastBalance?`: the last balance of an address in a list of entries

## Main results

* `Ledger.account?_seed`, `Ledger.nonce_seed`: the accounts and the nonces after seeding
* `Ledger.seed_seed`, `Ledger.seed_perm`: seeding twice, and in another order
* `Application.initChain_eq`, `Application.exists_initChain_error`: when a request to initialise the
  chain is carried out, and when it is refused
* `Application.handle_initChain_twice`, `Application.fst_initChain_perm`: the same request once
  more, and with its entries in another order
* `Application.seeding_is_atomic`: what such a request does to any application
-/

namespace HostedLedger

/-- The last balance of an address in a list of entries. -/
def GenesisAccount.lastBalance? (accounts : List GenesisAccount) (address : String) :
    Option UInt64 :=
  SortedMap.lastValue? (accounts.map fun g => (g.address, g.balance)) address

open GenesisAccount (lastBalance?)

namespace GenesisAccount

variable {accounts accounts' : List GenesisAccount} {address : String}

theorem lastBalance?_append_singleton (accounts : List GenesisAccount) (g : GenesisAccount)
    (address : String) :
    lastBalance? (accounts ++ [g]) address =
      if address = g.address then some g.balance else lastBalance? accounts address := by
  rw [lastBalance?, List.map_append, List.map_singleton, SortedMap.lastValue?_append_singleton]
  rfl

/-- An entry tells the last balance of its address, if the address does not come again behind it. -/
theorem lastBalance?_of_last (g : GenesisAccount) (before : List GenesisAccount)
    {after : List GenesisAccount} (h : ∀ g' ∈ after, g'.address ≠ g.address) :
    lastBalance? (before ++ g :: after) g.address = some g.balance := by
  rw [lastBalance?, List.map_append, List.map_cons]
  apply SortedMap.lastValue?_of_last
  simpa using h

theorem lastBalance?_of_unlisted (h : ∀ g ∈ accounts, g.address ≠ address) :
    lastBalance? accounts address = none := by
  rw [lastBalance?, SortedMap.lastValue?_eq_none_iff]
  simpa using h

/-- Entries with different addresses may change places. -/
theorem lastBalance?_perm (nodup : (accounts.map (·.address)).Nodup)
    (perm : accounts'.Perm accounts) (address : String) :
    lastBalance? accounts' address = lastBalance? accounts address := by
  have hkeys (gs : List GenesisAccount) :
      (gs.map fun g => (g.address, g.balance)).map (·.1) = gs.map (·.address) := List.map_map
  have hnodup' : (accounts'.map (·.address)).Nodup := (perm.map _).nodup_iff.mpr nodup
  apply Option.ext
  intro balance
  rw [← hkeys] at nodup hnodup'
  rw [lastBalance?, lastBalance?, SortedMap.lastValue?_eq_some_iff nodup,
    SortedMap.lastValue?_eq_some_iff hnodup', (perm.map _).mem_iff]

end GenesisAccount

/-! ### Ledgers -/

namespace Ledger

variable {accounts accounts' : List GenesisAccount}

theorem account?_initAccount (l : Ledger) {address : String} (address_ne : address ≠ "")
    (balance : UInt64) (address' : String) :
    (l.initAccount address balance).1.account? address' =
      if address' = address then some ⟨balance, l.nonce address⟩ else l.account? address' := by
  rw [initAccount, (Address.check_eq_ok_iff "account").mpr address_ne]
  exact l.accounts.get?_insert address address' _

/-- An account that has been given a balance, or left as it was, has the nonce that it had. -/
theorem nonce_eq_of_account? {l l' : Ledger} {address : String} {balance? : Option UInt64}
    (h : l'.account? address =
      (balance?.map fun balance => ⟨balance, l.nonce address⟩).or (l.account? address)) :
    l'.nonce address = l.nonce address := by
  rw [nonce, h]
  cases balance? <;> rfl

/-- **Seeding gives an address the last balance of its entries**, and keeps its nonce; an address
without an entry keeps its account. -/
theorem account?_seed (l : Ledger) (named : ∀ g ∈ accounts, g.address ≠ "") (address : String) :
    (l.seed accounts).1.account? address =
      ((lastBalance? accounts address).map fun balance => ⟨balance, l.nonce address⟩).or
        (l.account? address) := by
  rw [seed_eq l named]
  induction accounts using List.reverseRecOn generalizing address with
  | nil => rfl
  | append_singleton accounts g ih =>
    rw [List.forall_mem_append, List.forall_mem_singleton] at named
    have hnonce := nonce_eq_of_account? (ih named.1 g.address)
    rw [seedCalls, List.map_append, List.map_singleton, Machine.after_append, Machine.after_cons,
      Machine.after_nil]
    refine (account?_initAccount _ named.2 g.balance address).trans ?_
    rw [GenesisAccount.lastBalance?_append_singleton]
    by_cases haddress : address = g.address
    · subst haddress
      rw [if_pos rfl, if_pos rfl]
      exact congrArg (fun nonce => some (Account.mk g.balance nonce)) hnonce
    · rw [if_neg haddress, if_neg haddress]
      exact ih named.1 address

/-- The last entry of an address counts. -/
theorem account?_seed_of_last (l : Ledger) (g : GenesisAccount) {before after : List GenesisAccount}
    (named : ∀ g' ∈ before ++ g :: after, g'.address ≠ "")
    (last : ∀ g' ∈ after, g'.address ≠ g.address) :
    (l.seed (before ++ g :: after)).1.account? g.address =
      some ⟨g.balance, l.nonce g.address⟩ := by
  rw [account?_seed l named, GenesisAccount.lastBalance?_of_last g before last]
  rfl

theorem account?_seed_of_unlisted (l : Ledger) (named : ∀ g ∈ accounts, g.address ≠ "")
    {address : String} (unlisted : ∀ g ∈ accounts, g.address ≠ address) :
    (l.seed accounts).1.account? address = l.account? address := by
  rw [account?_seed l named, GenesisAccount.lastBalance?_of_unlisted unlisted]
  rfl

theorem nonce_seed (l : Ledger) (named : ∀ g ∈ accounts, g.address ≠ "") (address : String) :
    (l.seed accounts).1.nonce address = l.nonce address :=
  nonce_eq_of_account? (l.account?_seed named address)

theorem seed_eq_with_accounts (l : Ledger) (named : ∀ g ∈ accounts, g.address ≠ "") :
    (l.seed accounts).1 = { l with accounts := (l.seed accounts).1.accounts } := by
  obtain ⟨seeded, hseeded⟩ := l.exists_after_seedCalls accounts
  rw [seed_eq l named, hseeded]

/-- Ledgers that are seeded are equal if they have the same accounts. -/
theorem seed_congr {l l' : Ledger} (named : ∀ g ∈ accounts, g.address ≠ "")
    (named' : ∀ g ∈ accounts', g.address ≠ "")
    (rest : { l with accounts := ∅ } = { l' with accounts := ∅ })
    (h : ∀ address, (l.seed accounts).1.account? address = (l'.seed accounts').1.account? address) :
    l.seed accounts = l'.seed accounts' := by
  have haccounts : (l.seed accounts).1.accounts = (l'.seed accounts').1.accounts :=
    SortedMap.ext_get? h
  have hledger : (l.seed accounts).1 = (l'.seed accounts').1 := by
    rw [seed_eq_with_accounts l named, seed_eq_with_accounts l' named', haccounts]
    cases l
    cases l'
    simpa using rest
  refine Prod.ext hledger ?_
  rw [seed_eq l named, seed_eq l' named']

/-- Seeding twice is seeding once. -/
theorem seed_seed (l : Ledger) (named : ∀ g ∈ accounts, g.address ≠ "") :
    (l.seed accounts).1.seed accounts = l.seed accounts := by
  refine seed_congr named named ?_ fun address => ?_
  · rw [seed_eq_with_accounts l named]
  · rw [account?_seed _ named, nonce_seed l named, account?_seed l named]
    cases lastBalance? accounts address <;> rfl

/-- Entries with different addresses may change places. -/
theorem seed_perm (l : Ledger) (named : ∀ g ∈ accounts, g.address ≠ "")
    (nodup : (accounts.map (·.address)).Nodup) (perm : accounts'.Perm accounts) :
    l.seed accounts' = l.seed accounts := by
  have named' : ∀ g ∈ accounts', g.address ≠ "" := fun g hg => named g (perm.subset hg)
  refine seed_congr named' named rfl fun address => ?_
  rw [account?_seed l named', account?_seed l named, GenesisAccount.lastBalance?_perm nodup perm]

end Ledger

/-! ### Requests -/

namespace Application

variable {validators : List String} {accounts : List GenesisAccount}

/-- A request in which every validator and every entry has an address seeds the ledger. -/
theorem initChain_eq (a : Application) (validators_ne : ∀ v ∈ validators, v ≠ "")
    (accounts_ne : ∀ g ∈ accounts, g.address ≠ "") :
    a.handle (.initChain validators accounts) =
      ({ a with ledger := (a.ledger.seed accounts).1 }, .ok .initChain) := by
  rw [handle, initChain, checkValidators_eq_ok_iff.mpr validators_ne,
    GenesisAccount.checkAll_eq_ok_iff.mpr accounts_ne, Ledger.seed_eq a.ledger accounts_ne]

/-- Any other one is refused. -/
theorem exists_initChain_error (a : Application)
    (unnamed : ¬((∀ v ∈ validators, v ≠ "") ∧ ∀ g ∈ accounts, g.address ≠ "")) :
    ∃ e, a.handle (.initChain validators accounts) = (a, .error (.parameter e)) := by
  rw [handle, initChain]
  split
  · next e _ => exact ⟨e, rfl⟩
  next hvalidators =>
  split
  · next e _ => exact ⟨e, rfl⟩
  next haccounts =>
  exact absurd ⟨checkValidators_eq_ok_iff.mp hvalidators,
    GenesisAccount.checkAll_eq_ok_iff.mp haccounts⟩ unnamed

/-- The same request once more changes nothing and is answered alike. -/
theorem handle_initChain_twice (a : Application) (validators : List String)
    (accounts : List GenesisAccount) :
    (a.handle (.initChain validators accounts)).1.handle (.initChain validators accounts) =
      a.handle (.initChain validators accounts) := by
  by_cases hnamed : (∀ v ∈ validators, v ≠ "") ∧ ∀ g ∈ accounts, g.address ≠ ""
  · obtain ⟨hvalidators, haccounts⟩ := hnamed
    rw [initChain_eq a hvalidators haccounts, initChain_eq _ hvalidators haccounts]
    dsimp only
    rw [Ledger.seed_seed a.ledger haccounts]
  · obtain ⟨e, hrefused⟩ := a.exists_initChain_error hnamed
    rw [hrefused]
    exact hrefused

/-- Entries with different addresses may change places. -/
theorem fst_initChain_perm (a : Application) (validators : List String)
    {permuted : List GenesisAccount} (perm : permuted.Perm accounts)
    (nodup : (accounts.map (·.address)).Nodup) :
    (a.handle (.initChain validators permuted)).1 =
      (a.handle (.initChain validators accounts)).1 := by
  have hsame : (∀ g ∈ permuted, g.address ≠ "") ↔ ∀ g ∈ accounts, g.address ≠ "" :=
    ⟨fun h g hg => h g (perm.symm.subset hg), fun h g hg => h g (perm.subset hg)⟩
  by_cases hnamed : (∀ v ∈ validators, v ≠ "") ∧ ∀ g ∈ accounts, g.address ≠ ""
  · obtain ⟨hvalidators, haccounts⟩ := hnamed
    rw [initChain_eq a hvalidators haccounts, initChain_eq a hvalidators (hsame.mpr haccounts),
      a.ledger.seed_perm haccounts nodup perm]
  · obtain ⟨e, hrefused⟩ := a.exists_initChain_error hnamed
    rw [← hsame] at hnamed
    obtain ⟨e', hrefused'⟩ := a.exists_initChain_error hnamed
    rw [hrefused, hrefused']

/-- **A request to initialise the chain is carried out as a whole or not at all, and the last entry
of an address counts.** On any application it succeeds if and only if no validator and no entry is
without an address. If it fails, an argument is at fault and nothing is changed. If it succeeds,
every address of the list has the balance of its last entry, with the nonce that it had before, and
nothing but the accounts of these addresses is changed. The same request once more changes nothing,
and entries with different addresses may change places. -/
theorem seeding_is_atomic (a : Application) (validators : List String)
    (accounts : List GenesisAccount) :
    let outcome := a.handle (.initChain validators accounts)
    ((∃ response, outcome.2 = .ok response) ↔
      (∀ v ∈ validators, v ≠ "") ∧ ∀ g ∈ accounts, g.address ≠ "") ∧
    (∀ e, outcome.2 = .error e → e.kind = .invalidParameter ∧ outcome.1 = a) ∧
    (∀ response, outcome.2 = .ok response → response = .initChain ∧
      (∀ before g after, accounts = before ++ g :: after →
        (∀ g' ∈ after, g'.address ≠ g.address) →
        outcome.1.ledger.account? g.address = some ⟨g.balance, a.ledger.nonce g.address⟩) ∧
      (∀ address, (∀ g ∈ accounts, g.address ≠ address) →
        outcome.1.ledger.account? address = a.ledger.account? address) ∧
      ∃ changed, outcome.1 = { a with ledger := { a.ledger with accounts := changed } }) ∧
    outcome.1.handle (.initChain validators accounts) = outcome ∧
    ∀ permuted, permuted.Perm accounts → (accounts.map (·.address)).Nodup →
      (a.handle (.initChain validators permuted)).1 = outcome.1 := by
  intro outcome
  suffices h : _ ∧ _ ∧ _ from ⟨h.1, h.2.1, h.2.2, a.handle_initChain_twice validators accounts,
    fun permuted perm nodup => a.fst_initChain_perm validators perm nodup⟩
  by_cases hnamed : (∀ v ∈ validators, v ≠ "") ∧ ∀ g ∈ accounts, g.address ≠ ""
  · obtain ⟨hvalidators, haccounts⟩ := hnamed
    have houtcome : outcome = ({ a with ledger := (a.ledger.seed accounts).1 }, .ok .initChain) :=
      a.initChain_eq hvalidators haccounts
    rw [houtcome]
    refine ⟨⟨fun _ => ⟨hvalidators, haccounts⟩, fun _ => ⟨_, rfl⟩⟩, ?_, ?_⟩
    · rintro e ⟨⟩
    · rintro response ⟨⟩
      refine ⟨rfl, ?_, fun address => a.ledger.account?_seed_of_unlisted haccounts, ?_⟩
      · rintro before g after rfl
        exact a.ledger.account?_seed_of_last g haccounts
      · exact ⟨_, congrArg (Application.mk · a.openBlock)
          (a.ledger.seed_eq_with_accounts haccounts)⟩
  · obtain ⟨e, houtcome⟩ : ∃ e, outcome = (a, .error (.parameter e)) :=
      a.exists_initChain_error hnamed
    rw [houtcome]
    refine ⟨⟨?_, fun h => absurd h hnamed⟩, ?_, ?_⟩
    · rintro ⟨response, ⟨⟩⟩
    · rintro e' ⟨⟩
      exact ⟨rfl, rfl⟩
    · rintro response ⟨⟩

/-- Two balances are set while a block is open, one of them twice, on a ledger where one of the
addresses has made transactions and a third one has an account. -/
theorem seeding_is_atomic_midBlock :
    let accounts : Accounts :=
      (SortedMap.insert ∅ "alice" ⟨9, 2⟩).insert "carol" ⟨4, 0⟩
    let a : Application :=
      ⟨⟨default, accounts, [⟨"alice", "carol", 1, 0, 0, 1, []⟩], []⟩, some ⟨1, "v1", true⟩⟩
    let request : Request := .initChain ["v1"] [⟨"alice", 5⟩, ⟨"bob", 1⟩, ⟨"alice", 7⟩]
    let outcome := a.handle request
    outcome.2 = .ok .initChain ∧
      outcome.1.ledger.account? "alice" = some ⟨7, 2⟩ ∧
      outcome.1.ledger.account? "bob" = some ⟨1, 0⟩ ∧
      outcome.1.ledger.account? "carol" = some ⟨4, 0⟩ ∧ outcome.1.handle request = outcome := by
  intro accounts a request outcome
  have hok : outcome.2 = .ok .initChain := by decide
  obtain ⟨-, -, hsucceeds, htwice, -⟩ :=
    a.seeding_is_atomic ["v1"] [⟨"alice", 5⟩, ⟨"bob", 1⟩, ⟨"alice", 7⟩]
  obtain ⟨-, hlisted, hunlisted, -⟩ := hsucceeds _ hok
  refine ⟨hok, ?_, ?_, ?_, htwice⟩
  · exact hlisted [⟨"alice", 5⟩, ⟨"bob", 1⟩] ⟨"alice", 7⟩ [] rfl (by simp)
  · exact hlisted [⟨"alice", 5⟩] ⟨"bob", 1⟩ [⟨"alice", 7⟩] rfl (by simp)
  · exact hunlisted "carol" (by simp)

end Application

end HostedLedger
