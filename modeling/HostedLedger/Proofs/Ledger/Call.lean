import HostedLedger.Ledger
import HostedLedger.Proofs.Account.Transfer
import HostedLedger.Proofs.Machine
import HostedLedger.Wire.Lawful

/-!
# Calls on ledgers

Three calls may change a ledger: setting a balance, applying a transaction and sealing a block. As
inputs of one machine they make runs. What a call does is one of four effects, and every law about
runs is proved from these.

## Main definitions

* `Ledger.Call`, `Ledger.perform`: the calls, and the machine that carries them out
* `Ledger.mixedCalls`: a run to try the laws on
* `Ledger.accepted`, `Ledger.sealed`: the transaction and the block that a step adds
* `Ledger.Effect`: what a call may do
* `Ledger.seedCalls`: the calls that set the balances of a list

## Main results

* `Ledger.obeys_effect`: every call has one of the effects
* `Ledger.nextBlock_eq_ok_iff`: the block that the pool makes
* `Ledger.eq_of_apply_ok`, `Ledger.eq_of_sealBlock_ok`: the ledger after a call that goes through
* `Ledger.eq_of_apply_error`, `Ledger.eq_of_sealBlock_error`: refused calls leave the ledger alone
* `Ledger.seed_eq`: seeding is a run, and entries that have been checked are all set
* `Ledger.exists_after_seedCalls`: seeding changes nothing but the accounts
-/

namespace HostedLedger

namespace Ledger

/-- A call that may change a ledger. -/
inductive Call
  | initAccount (address : String) (balance : UInt64)
  | apply (tx : Transaction)
  | sealBlock (proposer : String)

/-- The answer to a call: nothing, or the block that it has sealed. -/
abbrev Answer : Type := Except Error (Option Block)

/-- Carries out a call. -/
def perform : Machine Ledger Call Answer
  | l, .initAccount address balance => (l.initAccount address balance).map id (·.map fun _ => none)
  | l, .apply tx => (l.apply tx).map id (·.map fun _ => none)
  | l, .sealBlock proposer => (l.sealBlock proposer).map id (·.map some)

/-- A run with every kind of call, in which a transaction is repeated, a sender pays itself, an
account is funded again and some calls are refused. -/
def mixedCalls : List Call :=
  [.initAccount "alice" 1000, .initAccount "" 5, .apply ⟨"alice", "bob", 100, 1, 0, 0, []⟩,
   .apply ⟨"alice", "bob", 100, 1, 0, 0, []⟩, .sealBlock "v1", .initAccount "alice" 500,
   .apply ⟨"alice", "alice", 7, 2, 0, 1, [1]⟩, .sealBlock "", .sealBlock "v2", .sealBlock "v3",
   .apply ⟨"bob", "carol", 50, 0, 0, 0, []⟩]

/-- The transaction that a step has accepted, if it has. -/
def accepted : Step Ledger Call Answer → List Transaction
  | ⟨_, .apply tx, .ok _⟩ => [tx]
  | _ => []

/-- The block that a step has sealed, if it has. -/
def sealed : Step Ledger Call Answer → List Block
  | ⟨_, .sealBlock _, .ok block⟩ => block.toList
  | _ => []

/-- The block that the pool makes holds the pool, and its hash and its transaction root are made of
the digests of the pool. -/
theorem nextBlock_eq_ok_iff {l : Ledger} {proposer : String} {b : Block} :
    l.nextBlock proposer = .ok b ↔
      ∃ txHashes preimage, l.pending.mapM Transaction.hash = .ok txHashes ∧
        Block.preimage l.latestHash (l.height + 1) proposer txHashes = .ok preimage ∧
        b = {
          height := l.height + 1
          prevHash := l.latestHash
          hash := sha256 preimage
          proposer
          stateRoot := l.stateRoot
          txRoot := Merkle.orderedRoot txHashes
          transactions := l.pending } := by
  simp only [nextBlock, Block.digest, Format.bind_eq_ok_iff]
  constructor
  · rintro ⟨txHashes, htx, hash, ⟨preimage, hpre, hhash⟩, hb⟩
    cases hhash
    cases hb
    exact ⟨txHashes, preimage, htx, hpre, rfl⟩
  · rintro ⟨txHashes, preimage, htx, hpre, rfl⟩
    exact ⟨txHashes, htx, _, ⟨preimage, hpre, rfl⟩, rfl⟩

/-- What a call may do to a ledger. -/
inductive Effect (l : Ledger) : Call → Answer → Ledger → Prop
  | refused {call : Call} {e : Error} : Effect l call (.error e) l
  | initAccount {address : String} {balance : UInt64} (address_ne : address ≠ "") :
    Effect l (.initAccount address balance) (.ok none)
      { l with accounts := l.accounts.insert address ⟨balance, l.nonce address⟩ }
  | apply {tx : Transaction} {accounts : Accounts} (transfers : l.accounts.Transfers tx accounts) :
    Effect l (.apply tx) (.ok none) { l with accounts, pending := l.pending ++ [tx] }
  | sealBlock {proposer : String} {block : Block} (proposer_ne : proposer ≠ "")
    (allowed : l.pending = [] → l.policy.allowEmptyBlocks = true)
    (block_eq : l.nextBlock proposer = .ok block) :
    Effect l (.sealBlock proposer) (.ok (some block))
      { l with pending := [], chain := l.chain ++ [block] }

theorem obeys_effect : perform.Obeys Effect := by
  intro l call
  cases call with
  | initAccount address balance =>
    rw [perform, Ledger.initAccount]
    split
    · exact .refused
    · next h => exact .initAccount ((Address.check_eq_ok_iff _).mp h)
  | apply tx =>
    rw [perform, Ledger.apply]
    split
    · exact .refused
    · next o h => exact .apply (Overlay.transfers_of_transfer h)
  | sealBlock proposer =>
    rw [perform, Ledger.sealBlock]
    split
    · exact .refused
    next h =>
    split
    · exact .refused
    next hallowed =>
    split
    · exact .refused
    next block hblock =>
    refine .sealBlock ((Address.check_eq_ok_iff _).mp h) (fun hp => ?_) hblock
    simpa [hp] using hallowed

/-- A ledger keeps the policy that it was made with. -/
theorem policy_after (l : Ledger) (calls : List Call) :
    (perform.after l calls).policy = l.policy :=
  obeys_effect.after_induction (P := fun l' => l'.policy = l.policy)
    (fun h hl => by cases h <;> exact hl) rfl calls

/-! ### Answered calls -/

theorem eq_of_apply_ok {l l' : Ledger} {tx : Transaction} (h : l.apply tx = (l', .ok ())) :
    ∃ accounts, l.accounts.Transfers tx accounts ∧
      l' = { l with accounts, pending := l.pending ++ [tx] } := by
  have heffect := obeys_effect l (.apply tx)
  rw [perform, h] at heffect
  cases heffect with
  | apply transfers => exact ⟨_, transfers, rfl⟩

theorem eq_of_sealBlock_ok {l l' : Ledger} {proposer : String} {block : Block}
    (h : l.sealBlock proposer = (l', .ok block)) :
    (l.pending = [] → l.policy.allowEmptyBlocks = true) ∧ l.nextBlock proposer = .ok block ∧
      l' = { l with pending := [], chain := l.chain ++ [block] } := by
  have heffect := obeys_effect l (.sealBlock proposer)
  rw [perform, h] at heffect
  cases heffect with
  | sealBlock _ allowed block_eq => exact ⟨allowed, block_eq, rfl⟩

/-! ### Refused calls -/

theorem Effect.eq_of_error {l l' : Ledger} {call : Call} {e : Error}
    (h : Effect l call (.error e) l') : l' = l := by
  cases h
  rfl

theorem eq_of_initAccount_error {l l' : Ledger} {address : String} {balance : UInt64} {e : Error}
    (h : l.initAccount address balance = (l', .error e)) : l' = l := by
  have heffect := obeys_effect l (.initAccount address balance)
  rw [perform, h] at heffect
  exact heffect.eq_of_error

theorem eq_of_apply_error {l l' : Ledger} {tx : Transaction} {e : Error}
    (h : l.apply tx = (l', .error e)) : l' = l := by
  have heffect := obeys_effect l (.apply tx)
  rw [perform, h] at heffect
  exact heffect.eq_of_error

theorem eq_of_sealBlock_error {l l' : Ledger} {proposer : String} {e : Error}
    (h : l.sealBlock proposer = (l', .error e)) : l' = l := by
  have heffect := obeys_effect l (.sealBlock proposer)
  rw [perform, h] at heffect
  exact heffect.eq_of_error

/-! ### Seeding -/

/-- The calls that give the addresses of a list their balances. -/
def seedCalls (accounts : List GenesisAccount) : List Call :=
  accounts.map fun g => .initAccount g.address g.balance

theorem seed_eq (l : Ledger) {accounts : List GenesisAccount}
    (h : ∀ g ∈ accounts, g.address ≠ "") :
    l.seed accounts = (perform.after l (seedCalls accounts), .ok ()) := by
  induction accounts generalizing l with
  | nil => rfl
  | cons g accounts ih =>
    obtain ⟨hg, haccounts⟩ := List.forall_mem_cons.mp h
    have hcheck := (Address.check_eq_ok_iff "account").mpr hg
    rw [seed, seedCalls, List.map_cons, Machine.after_cons, perform, initAccount, hcheck]
    exact ih _ haccounts

/-- Seeding changes nothing but the accounts. -/
theorem exists_after_seedCalls (l : Ledger) (accounts : List GenesisAccount) :
    ∃ seeded, perform.after l (seedCalls accounts) = { l with accounts := seeded } := by
  induction accounts generalizing l with
  | nil => exact ⟨l.accounts, rfl⟩
  | cons g accounts ih =>
    rw [seedCalls, List.map_cons, Machine.after_cons, perform, initAccount]
    split
    · exact ih l
    · exact ih { l with accounts := l.accounts.insert g.address ⟨g.balance, l.nonce g.address⟩ }

end Ledger

end HostedLedger
